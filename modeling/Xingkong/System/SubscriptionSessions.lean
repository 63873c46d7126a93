import Xingkong.Lib.Pool
import Xingkong.System.BillingSessions
import Xingkong.System.SessionThreadSteps
import Mathlib.Algebra.Order.BigOperators.Group.Finset

/-!
# Many sessions on the same subscriptions

Sessions of different requests draw on the same counters at the same time, and their transactions
interleave freely. In every state, a counter is what it was at the start plus the net charges of
the sessions on it, and the ledger has grown by the same sum.
-/

namespace Xingkong

open Rdb

variable {db db' : Database} {cfg : Config}

/-! ## All sessions -/

variable {ι : Type} [Fintype ι] {p : Pool.State ι SessionThread Database}

/-- The sessions of a set of requests, before any of them is charged. -/
def SessionThread.new (request : RelayInfo × Int) : SessionThread where
  session := .onSubscription request.1 request.2
  pc := .start request.2
  stranded := 0

/-- Counters and ledger are those of `db0` plus the net charges of the threads. -/
structure SessionsSound (db0 : Database) (requestId : ι → String)
    (p : Pool.State ι SessionThread Database) : Prop where
  used : ∀ n, p.shared.amountUsed n = db0.amountUsed n + ∑ j, (p.threads j).netOn n
  ledger : ∀ n, p.shared.ledgerSum n = db0.ledgerSum n + ∑ j, (p.threads j).netOn n
  capped : p.shared.Capped
  sound : ∀ j, (p.threads j).Sound p.shared
  ids : ∀ j, (p.threads j).session.funding.requestId = requestId j

namespace SessionsSound

variable {db0 : Database} {requestId : ι → String}

theorem netOn_le (h : SessionsSound db0 requestId p) (hpos : ∀ n, 0 ≤ db0.amountUsed n) (j : ι)
    (n : Nat) : (p.threads j).netOn n ≤ p.shared.amountUsed n := by
  have hone := Finset.single_le_sum (f := fun i => (p.threads i).netOn n)
      (fun i _ => (h.sound i).netOn_nonneg n) (Finset.mem_univ j)
  have := hpos n
  rw [h.used]
  omega

/-- **A step of any session keeps counters and ledger in step with the net charges.** -/
theorem next [DecidableEq ι] (h : SessionsSound db0 requestId p)
    (hinj : Function.Injective requestId)
    (hpos : ∀ n, 0 ≤ db0.amountUsed n) (cfg : Config) {x : ι × SessionAct}
    (hx : SessionThread.Promised x.2) :
    SessionsSound db0 requestId (Pool.next (SessionThread.run cfg) p x) := by
  obtain ⟨⟨n, d, hm, hnet⟩, hreq, hid, hs⟩ := (h.sound x.1).run (h.netOn_le hpos x.1) hx cfg
  have hsum : ∀ m, ∑ j, ((Pool.next (SessionThread.run cfg) p x).threads j).netOn m =
      ∑ j, (p.threads j).netOn m + if m = n then d else 0 := fun m => by
    rw [Pool.sum_next (SessionThread.netOn m), hnet]
    omega
  refine ⟨fun m => ?_, fun m => ?_, hm.capped h.capped, fun j => ?_, fun j => ?_⟩
  · rw [Pool.next_shared, hm.used, h.used, hsum, add_assoc]
  · rw [Pool.next_shared, hm.ledger, h.ledger, hsum, add_assoc]
  · refine Pool.forall_next (L := fun db _ (t : SessionThread) => t.Sound db) hs (fun j hj => ?_) j
    refine (h.sound j).congr (hreq _ ?_)
    rw [h.ids, h.ids]
    exact fun he => hj (hinj he)
  · exact Pool.forall_next
      (L := fun _ i (t : SessionThread) => t.session.funding.requestId = requestId i)
      (hid.trans (h.ids x.1)) (fun j _ => h.ids j) j

theorem run [DecidableEq ι] {requests : ι → RelayInfo × Int}
    (hinj : Function.Injective fun j => (requests j).1.requestId)
    (hnew : ∀ j, db0.accounts.request (requests j).1.requestId = none)
    (hcap : db0.Capped) (hpos : ∀ n, 0 ≤ db0.amountUsed n) (cfg : Config)
    {steps : List (ι × SessionAct)} (h1 : ∀ x ∈ steps, SessionThread.Promised x.2) :
    SessionsSound db0 (fun j => (requests j).1.requestId)
      (Run.final (Pool.next (SessionThread.run cfg)) ⟨db0, fun j => .new (requests j)⟩ steps) := by
  refine Run.final_invariant ?_ fun p x hx h => h.next hinj hpos cfg (h1 x hx)
  have h : ∀ n, ∑ j, (SessionThread.new (requests j)).netOn n = 0 := fun n =>
    Finset.sum_eq_zero fun j _ => by simp [SessionThread.netOn, SessionThread.charge,
      SessionThread.new]
  refine ⟨fun n => ?_, fun n => ?_, hcap, fun j => ⟨le_refl 0, rfl, rfl, hnew j⟩, fun _ => rfl⟩
  · rw [h, add_zero]
  · rw [h, add_zero]

end SessionsSound

/-! ### Rollbacks -/

namespace SessionThread

def RollbackOk (t : SessionThread) (a : SessionAct) (db : Database) : Prop :=
  ∀ delta env, t.pc = .rollingBack delta → a = .rollback env →
    (t.session.rollbackFundingReserve env delta db).1.isOk = true

theorem run_stranded {t : SessionThread} {a : SessionAct} (h : t.RollbackOk a db) (cfg : Config) :
    (t.run cfg a db).1.stranded = t.stranded := by
  unfold run
  split
  · unfold SessionThread.preConsume; split <;> rfl
  · unfold SessionThread.reserve
    split
    · rfl
    · unfold SessionThread.reserveBy; split <;> rfl
  · unfold SessionThread.reserveToken; split <;> rfl
  next delta env hpc =>
    have hok := h delta env hpc rfl
    unfold SessionThread.rollback
    generalize t.session.rollbackFundingReserve env delta db = x at hok
    obtain ⟨e | u, s, db1⟩ := x
    · cases hok
    · rfl
  · rfl
  · unfold SessionThread.refund; split <;> rfl
  · unfold SessionThread.refundFunding
    split
    · rfl
    · split <;> rfl
  · unfold SessionThread.refundExtra; split <;> rfl
  · rfl
  · rfl

def accepted (t : SessionThread) : Bool :=
  match t.pc with
  | .start _ => false
  | .rejected => false
  | _ => true

theorem Sound.record {t : SessionThread} (h : t.Sound db) (ha : t.accepted = true) :
    ∃ v, db.accounts.request t.session.funding.requestId = some v := by
  have hpc := h.pc
  have hres : ∀ {status f}, t.session.Reserved db status f →
      ∃ v, db.accounts.request t.session.funding.requestId = some v :=
    fun hr => ⟨_, by rw [hr.requestId, hr.record]⟩
  unfold accepted at ha
  unfold PcSound at hpc
  split at hpc <;> rename_i hp <;> rw [hp] at ha
  · cases ha
  · cases ha
  · obtain ⟨_, _, hr⟩ := hpc; exact hres hr
  · obtain ⟨_, _, _, hr⟩ := hpc; exact hres hr
  · obtain ⟨_, _, _, hr⟩ := hpc; exact hres hr
  · obtain ⟨_, _, hr⟩ := hpc; exact hres hr
  · obtain ⟨_, _, hr⟩ := hpc; exact hres hr
  · obtain ⟨_, _, _, _, hr, _⟩ := hpc; exact hres hr
  · obtain ⟨_, _, _, hr, _⟩ := hpc; exact hres hr
  · obtain ⟨_, _, _, hr, _⟩ := hpc; exact hres hr

end SessionThread

/-! ## Main result -/

/-- **Counter, ledger and sessions agree in every interleaving.** After any run of sessions with
distinct new request ids, every counter and its ledger have grown by the net charges of the
sessions on the subscription, and the counter is between 0 and its total. What a `Reserve` could
not undo comes on top of `chargeOn`. No request is charged or refunded twice. -/
theorem subscription_sessions_net [DecidableEq ι] (cfg : Config) (db0 : Database)
    (requests : ι → RelayInfo × Int)
    (hinj : Function.Injective fun j => (requests j).1.requestId)
    (hnew : ∀ j, db0.accounts.request (requests j).1.requestId = none)
    (hcap : db0.Capped) (hpos : ∀ sub ∈ db0.userSubscriptions.rows, 0 ≤ sub.amountUsed)
    (steps : List (ι × SessionAct)) (hsteps : ∀ x ∈ steps, SessionThread.Promised x.2) :
    let start : Pool.State ι SessionThread Database := ⟨db0, fun j => .new (requests j)⟩
    let p := Run.final (Pool.next (SessionThread.run cfg)) start steps
    (∀ n, p.shared.amountUsed n = db0.amountUsed n + ∑ j, (p.threads j).netOn n) ∧
    ((∀ e ∈ Run.trace (Pool.next (SessionThread.run cfg)) start steps,
        (e.before.threads e.act.1).RollbackOk e.act.2 e.before.shared) →
      ∀ n, p.shared.amountUsed n = db0.amountUsed n + ∑ j, (p.threads j).chargeOn n) ∧
    (∀ n, p.shared.amountUsed n =
      db0.amountUsed n + (p.shared.ledgerSum n - db0.ledgerSum n)) ∧
    (∀ n, 0 ≤ p.shared.amountUsed n) ∧
    p.shared.Capped ∧
    (∀ j, (p.threads j).accepted = true →
      ∀ cfg now userId modelName amount faults, (preConsumeUserSubscription cfg now
        (requests j).1.requestId userId modelName amount faults p.shared).2 = p.shared) ∧
    (∀ j, (p.threads j).pc = .refunded 0 → ∃ v,
      p.shared.accounts.request (requests j).1.requestId = some v ∧ v.status = .refunded) ∧
    (∀ j v, p.shared.accounts.request (requests j).1.requestId = some v → v.status = .refunded →
      ∀ now faults, (refundSubscriptionPreConsume now (requests j).1.requestId faults
        p.shared).2 = p.shared) := by
  intro start p
  have hstart : ∀ n, 0 ≤ db0.amountUsed n := Database.amountUsed_nonneg hpos
  have h : SessionsSound db0 (fun j => (requests j).1.requestId) p :=
    .run hinj hnew hcap hstart cfg hsteps
  have hsum : ∀ n, 0 ≤ ∑ j, (p.threads j).netOn n := fun n =>
    Finset.sum_nonneg fun j _ => (h.sound j).netOn_nonneg n
  refine ⟨h.used, fun h1 n => ?_, fun n => ?_, fun n => ?_, h.capped, fun j ha => ?_,
    fun j hj => ?_, fun j v hv hs now faults => refundSubscriptionPreConsume_repeat hv hs⟩
  · have hzero : ∀ j, (p.threads j).stranded = 0 :=
      Run.guarded_final
        (P := fun q : Pool.State ι SessionThread Database => ∀ j, (q.threads j).stranded = 0)
        (fun _ => rfl) h1 fun q x hx hq =>
          Pool.forall_next (L := fun _ _ (t : SessionThread) => t.stranded = 0)
          ((SessionThread.run_stranded hx cfg).trans (hq x.1)) fun j _ => hq j
    rw [h.used]
    congr 1
    refine Finset.sum_congr rfl fun j _ => ?_
    simp [SessionThread.netOn, SessionThread.chargeOn, hzero j]
  · rw [h.used, h.ledger]
    omega
  · rw [h.used]
    exact add_nonneg (hstart n) (hsum n)
  · intro cfg now userId modelName amount faults
    obtain ⟨v, hv⟩ := (h.sound j).record ha
    rw [h.ids] at hv
    exact preConsumeUserSubscription_repeat hv
  · have hpc := (h.sound j).pc
    rw [hj] at hpc
    obtain ⟨_, status, f, hr, hs⟩ := hpc
    have hv := hr.record
    rw [← hr.requestId, h.ids] at hv
    exact ⟨_, hv, hs rfl⟩

theorem subscription_sessions_net_two :
    let requests : Fin 2 → RelayInfo × Int := fun j =>
      ({ billingInfo with requestId := if j = 0 then "a" else "b" }, 100)
    let p := Run.final (Pool.next (SessionThread.run .fresh))
      ⟨billingDb false, fun j => .new (requests j)⟩
      [(0, .preConsume .calm), (1, .preConsume .calm), (0, .reserve .calm 150),
        (1, .settle .calm 30), (0, .reserveToken .calm), (0, .refund), (0, .refundFunding 1 [])]
    p.shared.amountUsed 1 = 480 ∧
      ∀ n, p.shared.amountUsed n = (billingDb false).amountUsed n +
        ∑ j, (p.threads j).netOn n := by
  intro requests p
  refine ⟨by decide +kernel, ?_⟩
  refine (subscription_sessions_net .fresh (billingDb false) requests (by decide)
    (by decide +kernel)
    (by decide +kernel) (by decide +kernel) _ fun x hx => ?_).1
  simp only [List.mem_cons, List.not_mem_nil, or_false] at hx
  rcases hx with rfl | rfl | rfl | rfl | rfl | rfl | rfl
  all_goals simp [SessionThread.Promised]

end Xingkong
