import Xingkong.System.SubscriptionRefunds

/-!
# The group a user comes back to

A user with own group `g` and the rows of the subscriptions table. `HomeGroup` says that every
upgraded subscription of the user remembers `g`, that one of them at most is active, and that
the user is in `g` when none is. It is kept by a new row, by the end of a row and by the expiry
of the user's due rows, each given with the way the user's group then changes.
-/

namespace Xingkong

open Rdb List

def UserSubscription.Upgraded (u : Nat) (s : UserSubscription) : Prop :=
  s.userId = u ∧ s.upgradeGroup ≠ ""

instance (u : Nat) (s : UserSubscription) : Decidable (s.Upgraded u) :=
  inferInstanceAs (Decidable (_ ∧ _))

structure GroupName (g : String) : Prop where
  ne : g ≠ ""
  trimmed : trimSpace g = g

/-- User `u`, whose own group is `g`: every upgraded subscription remembers `g`, one at most is
active, and without one the user is in `g`. Expired ones ended by `clock`, before an active one
ends. -/
structure HomeGroup (u : Nat) (g : String) (clock : Int) (group : Option String)
    (rows : List UserSubscription) : Prop where
  remembers : ∀ s ∈ rows, s.Upgraded u → trimSpace s.upgradeGroup = s.upgradeGroup ∧
    (s.prevUserGroup = g ∨ s.prevUserGroup = "" ∧ s.upgradeGroup = g)
  one : ∀ s ∈ rows, ∀ s' ∈ rows, s.Upgraded u → s'.Upgraded u → s.status = .active →
    s'.status = .active → s = s'
  home : (∀ s ∈ rows, s.Upgraded u → s.status ≠ .active) → group = some g
  away : ∀ s ∈ rows, s.Upgraded u → s.status = .active →
    group = some s.upgradeGroup ∨ group = some g
  past : ∀ e ∈ rows, e.Upgraded u → e.status = .expired → e.endTime ≤ clock ∧
    ∀ s ∈ rows, s.Upgraded u → s.status = .active → e.endTime < s.endTime

namespace HomeGroup

variable {u : Nat} {g : String} {clock now : Int} {group group' : Option String}
  {rows rows' : List UserSubscription} {sub s : UserSubscription}

section

variable (h : HomeGroup u g clock group rows)

include h

theorem later (hle : clock ≤ now) : HomeGroup u g now group rows := by
  refine ⟨h.remembers, h.one, h.home, h.away, ?_⟩
  intro e he hup hexp
  obtain ⟨hend, h1⟩ := h.past e he hup hexp
  exact ⟨hend.trans hle, h1⟩

theorem same_upgrades
    (hsame : ∀ x, x.Upgraded u → (x ∈ rows' ↔ x ∈ rows)) : HomeGroup u g clock group rows' := by
  refine ⟨?_, ?_, ?_, ?_, ?_⟩
  · intro x hx hup
    exact h.remembers x ((hsame x hup).1 hx) hup
  · intro x hx y hy hxu hyu
    exact h.one x ((hsame x hxu).1 hx) y ((hsame y hyu).1 hy) hxu hyu
  · intro h1
    apply h.home
    intro x hx hup
    exact h1 x ((hsame x hup).2 hx) hup
  · intro x hx hup
    exact h.away x ((hsame x hup).1 hx) hup
  · intro e he hup hexp
    obtain ⟨hend, h1⟩ := h.past e ((hsame e hup).1 he) hup hexp
    refine ⟨hend, ?_⟩
    intro x hx hxu
    exact h1 x ((hsame x hxu).1 hx) hxu

theorem falls_back (hg : GroupName g)
    (hs : s ∈ rows) (hup : s.Upgraded u) (h1 : trimSpace s.prevUserGroup ≠ "") :
    trimSpace s.prevUserGroup = g := by
  rcases (h.remembers s hs hup).2 with hp | ⟨hp, _⟩
  · rw [hp, hg.trimmed]
  · rw [hp] at h1
    exact absurd rfl h1

theorem at_home : HomeGroup u g clock (some g) rows :=
  ⟨h.remembers, h.one, fun _ => rfl, fun _ _ _ _ => .inr rfl, h.past⟩

theorem stays_home (hg : GroupName g)
    (hs : s ∈ rows) (hup : s.Upgraded u) (hact : s.status = .active)
    (hstay : ¬ FallsBack s group ∨ trimSpace s.prevUserGroup = group.getD "") : group = some g := by
  unfold FallsBack at hstay
  obtain ⟨h1, h2⟩ := h.remembers s hs hup
  rcases h.away s hs hup hact with h3 | hhome
  · rw [h3, h1] at hstay
    rw [h3]
    refine congrArg some ?_
    rcases h2 with hp | ⟨_, heq⟩
    · rw [hp, hg.trimmed] at hstay
      rcases hstay with hno | heq
      · exact absurd ⟨hup.2, hg.ne, rfl⟩ hno
      · exact heq.symm
    · exact heq
  · exact hhome

/-! Rows that are added. -/

theorem add_other (hs : ¬ s.Upgraded u) : HomeGroup u g clock group (rows ++ [s]) := by
  apply h.same_upgrades
  intro x hup
  have hne : x ≠ s := by
    rintro rfl
    exact hs hup
  simp [hne]

theorem add_upgraded (hle : clock ≤ now)
    (hnone : ∀ x ∈ rows, x.Upgraded u → x.status ≠ .active) (hup : s.Upgraded u)
    (hact : s.status = .active) (htrimmed : trimSpace s.upgradeGroup = s.upgradeGroup)
    (hlt : now < s.endTime)
    (hprev : (s.prevUserGroup = "" ∧ s.upgradeGroup = g ∧ group' = some g) ∨
      (s.prevUserGroup = g ∧ group' = some s.upgradeGroup)) :
    HomeGroup u g now group' (rows ++ [s]) := by
  have hnew : ∀ x ∈ rows ++ [s], x.Upgraded u → x.status = .active → x = s := by
    intro x hx hup h1
    rcases mem_append.1 hx with hx | hx
    · exact absurd h1 (hnone x hx hup)
    · exact mem_singleton.1 hx
  refine ⟨?_, ?_, ?_, ?_, ?_⟩
  · intro x hx hup
    rcases mem_append.1 hx with hx | hx
    · exact h.remembers x hx hup
    · rw [mem_singleton.1 hx]
      refine ⟨htrimmed, ?_⟩
      rcases hprev with ⟨hp, heq, _⟩ | ⟨hp, _⟩
      · exact .inr ⟨hp, heq⟩
      · exact .inl hp
  · intro x hx y hy hxu hyu h1 h2
    rw [hnew x hx hxu h1, hnew y hy hyu h2]
  · intro hall
    exact absurd hact (hall s (mem_append_right _ mem_cons_self) hup)
  · intro x hx hup h1
    rw [hnew x hx hup h1]
    rcases hprev with ⟨_, _, h2⟩ | ⟨_, h2⟩
    · exact .inr h2
    · exact .inl h2
  · intro e he hup hexp
    rcases mem_append.1 he with he | he
    · obtain ⟨hend, _⟩ := h.past e he hup hexp
      refine ⟨hend.trans hle, ?_⟩
      intro x hx hxu h1
      rw [hnew x hx hxu h1]
      omega
    · rw [mem_singleton.1 he, hact] at hexp
      cases hexp

/-! A row that is cancelled or deleted. -/

structure Ended (sub : UserSubscription) (rows rows' : List UserSubscription) : Prop where
  old : ∀ x' ∈ rows', ∃ x ∈ rows, x'.userId = x.userId ∧ x'.upgradeGroup = x.upgradeGroup ∧
    x'.prevUserGroup = x.prevUserGroup ∧ (x'.status = .active → x' = x ∧ x.id ≠ sub.id) ∧
    (x'.status = .expired → x' = x)
  others : ∀ x ∈ rows, x.id ≠ sub.id → x ∈ rows'

def OtherActive (u : Nat) (sub : UserSubscription) (rows : List UserSubscription) : Prop :=
  ∃ x ∈ rows, x.Upgraded u ∧ x.status = .active ∧ x.id ≠ sub.id

theorem ended_rows (he : Ended sub rows rows')
    (h1 : (∀ x ∈ rows', x.Upgraded u → x.status ≠ .active) → group = some g) :
    HomeGroup u g clock group rows' := by
  refine ⟨?_, ?_, h1, ?_, ?_⟩
  · rintro x' hx' ⟨hown, hup⟩
    obtain ⟨x, hx, h1, h2, h3, _, _⟩ := he.old x' hx'
    rw [h2, h3]
    exact h.remembers x hx ⟨h1 ▸ hown, h2 ▸ hup⟩
  · intro x' hx' y' hy' hxu hyu h1 h2
    obtain ⟨x, hx, _, _, _, hxact, _⟩ := he.old x' hx'
    obtain ⟨y, hy, _, _, _, h3, _⟩ := he.old y' hy'
    obtain ⟨rfl, _⟩ := hxact h1
    obtain ⟨rfl, _⟩ := h3 h2
    exact h.one x' hx y' hy hxu hyu h1 h2
  · intro x' hx' hxu h1
    obtain ⟨x, hx, _, _, _, hxact, _⟩ := he.old x' hx'
    obtain ⟨rfl, _⟩ := hxact h1
    exact h.away x' hx hxu h1
  · intro e' he' heu hexp
    obtain ⟨e, h2, _, _, _, _, heq⟩ := he.old e' he'
    obtain rfl := heq hexp
    obtain ⟨hend, h3⟩ := h.past e' h2 heu hexp
    refine ⟨hend, ?_⟩
    intro x' hx' hxu h1
    obtain ⟨x, hx, _, _, _, hxact, _⟩ := he.old x' hx'
    obtain ⟨rfl, _⟩ := hxact h1
    exact h3 x' hx hxu h1

/-- **The end of a subscription.** The user falls back to `g`, or stays for a reason. -/
theorem ended (hg : GroupName g)
    (hsub : sub ∈ rows) (hkey : ∀ x ∈ rows, x.id = sub.id → x = sub) (he : Ended sub rows rows')
    (hother : sub.userId ≠ u → group' = group) (hdown : sub.userId = u →
      (group' = group ∧ (OtherActive u sub rows ∨ ¬ FallsBack sub group ∨
        trimSpace sub.prevUserGroup = group.getD "")) ∨
      (FallsBack sub group ∧ group' = some (trimSpace sub.prevUserGroup))) :
    HomeGroup u g clock group' rows' := by
  -- if `sub` was not the active upgrade, the active ones are the same as before
  have hsame : ¬ (sub.Upgraded u ∧ sub.status = .active) →
      HomeGroup u g clock group rows' := by
    intro hnot
    refine h.ended_rows he fun h1 => h.home fun x hx hup hact => ?_
    by_cases hid : x.id = sub.id
    · obtain rfl := hkey x hx hid
      exact hnot ⟨hup, hact⟩
    · exact h1 x (he.others x hx hid) hup hact
  by_cases hown : sub.userId = u
  · rcases hdown hown with ⟨rfl, h1⟩ | ⟨⟨hne, hprev, _⟩, rfl⟩
    · by_cases h2 : sub.Upgraded u ∧ sub.status = .active
      · obtain ⟨hup, hact⟩ := h2
        refine h.ended_rows he fun _ => ?_
        rcases h1 with ⟨x, hx, hxu, h3, hid⟩ | h1
        · exact absurd (congrArg _ (h.one x hx sub hsub hxu hup h3 hact)) hid
        · exact h.stays_home hg hsub hup hact h1
      · exact hsame h2
    · have hup : sub.Upgraded u := by
        refine ⟨hown, ?_⟩
        intro hnil
        rw [hnil] at hne
        exact hne rfl
      rw [h.falls_back hg hsub hup hprev]
      exact h.at_home.ended_rows he fun _ => rfl
  · rw [hother hown]
    apply hsame
    rintro ⟨hup, _⟩
    exact hown hup.1

/-! Rows that expire. -/

theorem map_other {f : UserSubscription → UserSubscription}
    (hf : ∀ x, (f x).userId = x.userId) (hkeep : ∀ x, x.userId = u → f x = x) :
    HomeGroup u g clock group (rows.map f) := by
  apply h.same_upgrades
  intro x hup
  constructor
  · intro hx
    obtain ⟨y, hy, rfl⟩ := mem_map.1 hx
    rw [hkeep y ((hf y).symm.trans hup.1)]
    exact hy
  · intro hx
    exact mem_map.2 ⟨x, hx, hkeep x hup.1⟩

end

theorem expireRow_upgraded (x : UserSubscription) :
    (expireRow now [u] x).Upgraded u ↔ x.Upgraded u := by
  unfold expireRow UserSubscription.Upgraded
  split <;> exact .rfl

theorem mem_of_active {x' : UserSubscription} (hx' : x' ∈ rows.map (expireRow now [u]))
    (h : x'.status = .active) : x' ∈ rows ∧ expireRow now [u] x' = x' := by
  obtain ⟨x, hx, rfl⟩ := mem_map.1 hx'
  unfold expireRow at h ⊢
  split at h
  · cases h
  next hno =>
    rw [if_neg hno]
    exact ⟨hx, if_neg hno⟩

theorem expireRow_of_expired {x : UserSubscription}
    (h : (expireRow now [u] x).status = .expired) :
    (x.status = .expired ∧ expireRow now [u] x = x) ∨
      (x.status = .active ∧ x.endTime ≤ now ∧
        expireRow now [u] x = { x with status := .expired }) := by
  unfold expireRow at h ⊢
  split at h
  next hdue =>
    rw [if_pos hdue]
    have hd := hdue.2
    simp only [UserSubscription.due, Bool.and_eq_true, decide_eq_true_eq] at hd
    exact .inr ⟨hd.1.1, hd.2, rfl⟩
  next hno =>
    rw [if_neg hno]
    exact .inl ⟨h, rfl⟩

theorem expireRow_names (x : UserSubscription) :
    (expireRow now [u] x).upgradeGroup = x.upgradeGroup ∧
      (expireRow now [u] x).prevUserGroup = x.prevUserGroup ∧
      (expireRow now [u] x).endTime = x.endTime := by
  unfold expireRow
  split <;> exact ⟨rfl, rfl, rfl⟩

variable (h : HomeGroup u g clock group rows)

include h

theorem expired_rows (hle : clock ≤ now)
    (h1 : (∀ x ∈ rows.map (expireRow now [u]), x.Upgraded u → x.status ≠ .active) →
      group = some g) : HomeGroup u g now group (rows.map (expireRow now [u])) := by
  refine ⟨?_, ?_, h1, ?_, ?_⟩
  · intro x' hx' hup
    obtain ⟨x, hx, rfl⟩ := mem_map.1 hx'
    rw [(expireRow_names x).1, (expireRow_names x).2.1]
    exact h.remembers x hx ((expireRow_upgraded x).1 hup)
  · intro x' hx' y' hy' hxu h1 h2 h3
    exact h.one x' (mem_of_active hx' h2).1 y' (mem_of_active hy' h3).1 hxu h1 h2 h3
  · intro x' hx' hxu h2
    exact h.away x' (mem_of_active hx' h2).1 hxu h2
  · intro e' he' heu hexp
    obtain ⟨e, he, rfl⟩ := mem_map.1 he'
    rw [expireRow_upgraded] at heu
    rw [(expireRow_names e).2.2]
    rcases expireRow_of_expired hexp with ⟨hold, _⟩ | ⟨hact, hend, _⟩
    · obtain ⟨hend, h1⟩ := h.past e he heu hold
      refine ⟨hend.trans hle, ?_⟩
      intro x' hx' hxu h2
      exact h1 x' (mem_of_active hx' h2).1 hxu h2
    · -- it was the only active one, so none is left
      refine ⟨hend, ?_⟩
      intro x hx hxu h2
      obtain ⟨hmem, h1⟩ := mem_of_active hx h2
      obtain rfl := h.one x hmem e he hxu heu h2 hact
      rw [h1, h2] at hexp
      cases hexp

/-- `e` is an expired upgraded subscription that ended after all others. -/
def LastExpired (u : Nat) (e : UserSubscription) (rows : List UserSubscription) : Prop :=
  e ∈ rows ∧ e.Upgraded u ∧ e.status = .expired ∧
    ∀ x ∈ rows, x.Upgraded u → x.status = .expired → x = e ∨ x.endTime < e.endTime

theorem lastExpired (hs : s ∈ rows) (hup : s.Upgraded u)
    (hact : s.status = .active) (hexp : (expireRow now [u] s).status = .expired) :
    LastExpired u (expireRow now [u] s) (rows.map (expireRow now [u])) := by
  refine ⟨mem_map_of_mem hs, (expireRow_upgraded s).2 hup, hexp, ?_⟩
  intro x' hx' hxu h1
  obtain ⟨x, hx, rfl⟩ := mem_map.1 hx'
  rw [expireRow_upgraded] at hxu
  rcases expireRow_of_expired h1 with ⟨hold, _⟩ | ⟨h1, _, _⟩
  · right
    rw [(expireRow_names x).2.2, (expireRow_names s).2.2]
    exact (h.past x hx hxu hold).2 s hs hup hact
  · left
    rw [h.one x hx s hs hxu hup h1 hact]

/-- **The expiry of a user's rows.** The user falls back to the group some expired subscription
remembers, or stays because an upgrade is active or because the last expired one says so. -/
theorem expired (hle : clock ≤ now) (hg : GroupName g)
    (h1 : (group' = group ∧
        ((∃ x ∈ rows.map (expireRow now [u]), x.Upgraded u ∧ x.status = .active) ∨
          ∀ e, LastExpired u e (rows.map (expireRow now [u])) →
            ¬ FallsBack e group ∨ trimSpace e.prevUserGroup = group.getD "")) ∨
      ∃ e ∈ rows.map (expireRow now [u]), e.Upgraded u ∧ FallsBack e group ∧
        group' = some (trimSpace e.prevUserGroup)) :
    HomeGroup u g now group' (rows.map (expireRow now [u])) := by
  rcases h1 with ⟨rfl, hstay⟩ | ⟨e', he', heu, ⟨_, hprev, _⟩, rfl⟩
  · refine h.expired_rows hle fun h1 => ?_
    rcases hstay with ⟨x, hx, hxu, h2⟩ | hstay
    · exact absurd h2 (h1 x hx hxu)
    · by_cases hactive : ∃ s ∈ rows, s.Upgraded u ∧ s.status = .active
      · obtain ⟨s, hs, hup, hact⟩ := hactive
        -- it is not active any more, so it was marked
        have hexp : (expireRow now [u] s).status = .expired := by
          have hno := h1 _ (mem_map_of_mem hs) ((expireRow_upgraded s).2 hup)
          unfold expireRow at hno ⊢
          split at hno
          next hdue =>
            rw [if_pos hdue]
          · exact absurd hact hno
        have h1 := hstay _ (h.lastExpired hs hup hact hexp)
        unfold FallsBack at h1
        rw [(expireRow_names s).1, (expireRow_names s).2.1] at h1
        exact h.stays_home hg hs hup hact h1
      · apply h.home
        intro s hs hup hact
        exact hactive ⟨s, hs, hup, hact⟩
  · obtain ⟨e, he, rfl⟩ := mem_map.1 he'
    rw [expireRow_upgraded] at heu
    rw [(expireRow_names e).2.1] at hprev ⊢
    rw [h.falls_back hg he heu hprev]
    exact h.at_home.expired_rows hle fun _ => rfl

end HomeGroup

end Xingkong
