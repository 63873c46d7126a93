import Mathlib.Data.Fintype.Basic
import Mathlib.Data.List.FinRange
import Xingkong.Lib.Pool
import Xingkong.Model.TwoFA

/-!
# Verification requests side by side

A backup code is read as unused in one statement and saved as used in another, and a failed attempt
is counted on the copy of the record that the request read at its start. Any number of requests of
one user run over one database, their statements in any order and with any errors. A code is used
once in every run in which no request selects the unused codes while another one holds some, and
wrong codes are counted in every run in which no request reads the record while another one holds a
copy of it (`two_factor_bounds_apart`). Nothing in the source keeps the requests apart.
-/

namespace Xingkong

open List Pool Run

/-! ## What a request holds -/

namespace Verification

/-- The copy of the record that a request works on. -/
def copy : Verification → Option TwoFA
  | .start | .done _ => none
  | .totp t _ | .totpWrong t | .totpRight t | .backup t | .compare t _ | .backupWrong t
  | .backupRight t _ | .backupUsed t _ => some t

/-- The rows that a request takes for unused. -/
def chosen : Verification → List TwoFABackupCode
  | .compare _ backupCodes => backupCodes
  | .backupRight _ bc => [bc]
  | _ => []

/-- The row that a request is authenticated by. -/
def spent : Verification → Option Nat
  | .backupUsed _ bc => some bc.id
  | .done (.backupCode id) => some id
  | _ => none

def isWrong : Verification → Bool
  | .totpWrong _ | .backupWrong _ => true
  | _ => false

def isSuccess : Verification → Bool
  | .done .totp | .done (.backupCode _) => true
  | _ => false

end Verification

/-! ## Runs -/

section Runs

variable {ι : Type} [DecidableEq ι] (lib : TwoFALib) (codes : ι → String)

def verifications (db : TwoFADb) : Pool.State ι VerifyRequest TwoFADb where
  shared := db
  threads i := ⟨codes i, .start⟩

/-- One statement of one request. -/
abbrev serve : Pool.State ι VerifyRequest TwoFADb → ι × Tick → Pool.State ι VerifyRequest TwoFADb :=
  Pool.next (VerifyRequest.next lib)

abbrev VerifyEv (ι : Type) := Run.Ev (Pool.State ι VerifyRequest TwoFADb) (ι × Tick)

abbrev stageBefore (e : VerifyEv ι) : Verification := (e.before.threads e.act.1).stage

abbrev stageAfter (e : VerifyEv ι) : Verification := (e.after.threads e.act.1).stage

def evaluatedWrong (e : VerifyEv ι) : Bool := (stageAfter e).isWrong

def succeeded (e : VerifyEv ι) : Bool := !(stageBefore e).isSuccess && (stageAfter e).isSuccess

def lockedFor (e : VerifyEv ι) : Bool :=
  match e.after.shared.twoFA with
  | some t => t.lockedUntil == some (e.act.2.now + lockoutDuration)
  | none => false

def UsedOnce (p : Pool.State ι VerifyRequest TwoFADb) : Prop :=
  ∀ i j id, (p.threads i).stage = .done (.backupCode id) →
    (p.threads j).stage = .done (.backupCode id) → i = j

/-- Steps that see no success and no lock evaluate at most `MaxFailAttempts` wrong codes. -/
def FewWrong (es : List (VerifyEv ι)) : Prop :=
  ∀ seg, seg <:+: es → (∀ e ∈ seg, succeeded e = false ∧ lockedFor e = false) →
    (seg.filter evaluatedWrong).length ≤ maxFailAttempts

/-- A request gets hold of unused codes only while no other one holds any. -/
def SelectsAlone (e : VerifyEv ι) : Prop :=
  (stageBefore e).chosen = [] → (stageAfter e).chosen ≠ [] →
    ∀ j, j ≠ e.act.1 → (e.before.threads j).stage.chosen = []

/-- A request reads the record only while no other one holds a copy of it. -/
def ReadsAlone (e : VerifyEv ι) : Prop :=
  stageBefore e = .start → ∀ j, j ≠ e.act.1 → (e.before.threads j).stage.copy = none

/-- The count of a wrong code is saved. -/
def SavesCount (e : VerifyEv ι) : Prop := (stageBefore e).isWrong = true → e.act.2.fault = none

instance [Fintype ι] (e : VerifyEv ι) : Decidable (SelectsAlone e) :=
  inferInstanceAs (Decidable (_ → _ → ∀ _, _))

instance [Fintype ι] (e : VerifyEv ι) : Decidable (ReadsAlone e) :=
  inferInstanceAs (Decidable (_ → ∀ _, _))

instance (e : VerifyEv ι) : Decidable (SavesCount e) := inferInstanceAs (Decidable (_ → _))

variable {lib codes} {p : Pool.State ι VerifyRequest TwoFADb} {x : ι × Tick} {stage : Verification}
  {code : String} {tick : Tick} {db : TwoFADb}

/-! ## Backup codes -/

theorem TwoFADb.update_backupCodes (t : TwoFA) (fault : Option String) :
    (db.update t fault).backupCodes = db.backupCodes := by
  unfold TwoFADb.update
  split <;> rfl

def TwoFADb.Used (db : TwoFADb) (id : Nat) : Prop :=
  ∀ row ∈ db.backupCodes, row.id = id → row.isUsed = true

theorem TwoFADb.Used.save {id : Nat} {bc : TwoFABackupCode} (h : db.Used id ∨ id = bc.id)
    (hused : bc.isUsed = true) : (db.saveBackupCode bc).Used id := by
  intro row hrow hid
  obtain ⟨old, hold, rfl⟩ := mem_map.1 hrow
  by_cases hold' : old.id = bc.id
  · rw [if_pos hold']
    exact hused
  · rw [if_neg hold'] at hid ⊢
    rcases h with h | rfl
    · exact h old hold hid
    · exact absurd hid hold'

/-- A statement leaves the table as it is, and then the rows a request holds were held before or
selected now; or it saves the row that the code has passed. -/
theorem next_rows (lib : TwoFALib) (code : String) (tick : Tick) (db : TwoFADb)
    (stage : Verification) :
    ((stage.next lib code tick db).2.backupCodes = db.backupCodes ∧
      (stage.next lib code tick db).1.spent = stage.spent ∧
      ∀ bc ∈ (stage.next lib code tick db).1.chosen,
        bc ∈ stage.chosen ∨ bc ∈ db.backupCodes ∧ bc.isUsed = false) ∨
    ∃ t bc used, stage = .backupRight t bc ∧ used.id = bc.id ∧ used.isUsed = true ∧
      stage.next lib code tick db = (.backupUsed t bc, db.saveBackupCode used) := by
  cases stage with
  | start =>
    left
    simp only [Verification.next]
    (repeat' split) <;> exact ⟨rfl, rfl, fun _ h => absurd h not_mem_nil⟩
  | totp t cleanCode =>
    left
    simp only [Verification.next]
    (repeat' split) <;> exact ⟨rfl, rfl, fun _ h => absurd h not_mem_nil⟩
  | totpWrong t | totpRight t | backupWrong t | backupUsed t bc =>
    exact .inl ⟨db.update_backupCodes _ _, rfl, fun _ h => absurd h not_mem_nil⟩
  | backup t =>
    left
    simp only [Verification.next]
    split
    · exact ⟨rfl, rfl, fun _ h => absurd h not_mem_nil⟩
    split
    · exact ⟨rfl, rfl, fun _ h => absurd h not_mem_nil⟩
    split
    · exact ⟨rfl, rfl, fun _ h => absurd h not_mem_nil⟩
    refine ⟨rfl, rfl, fun bc hbc => .inr ?_⟩
    obtain ⟨hmem, h⟩ := mem_filter.1 hbc
    simp only [Bool.and_eq_true, Bool.not_eq_true'] at h
    exact ⟨hmem, h.2⟩
  | compare t backupCodes =>
    left
    simp only [Verification.next]
    split
    next bc hfind =>
      refine ⟨rfl, rfl, fun row hrow => .inl ?_⟩
      rw [mem_singleton.1 hrow]
      exact mem_of_find?_eq_some hfind
    next => exact ⟨rfl, rfl, fun _ h => absurd h not_mem_nil⟩
  | backupRight t bc =>
    cases hfault : tick.fault with
    | some err =>
      left
      rw [Verification.next, hfault]
      exact ⟨rfl, rfl, fun _ h => absurd h not_mem_nil⟩
    | none =>
      right
      refine ⟨t, bc, { bc with isUsed := true, usedAt := some tick.now }, rfl, rfl, rfl, ?_⟩
      rw [Verification.next, hfault]
  | done outcome => exact .inl ⟨rfl, rfl, fun _ h => absurd h not_mem_nil⟩

/-- One request at most holds unused codes, they are unused, and the row that authenticated a
request is used and has authenticated no other. -/
structure CodesKept (p : Pool.State ι VerifyRequest TwoFADb) : Prop where
  one : ∀ i j, (p.threads i).stage.chosen ≠ [] → (p.threads j).stage.chosen ≠ [] → i = j
  unused : ∀ i, ∀ bc ∈ (p.threads i).stage.chosen, bc ∈ p.shared.backupCodes ∧ bc.isUsed = false
  used : ∀ i, ∀ id ∈ (p.threads i).stage.spent, p.shared.Used id
  once : ∀ i j, ∀ id ∈ (p.threads i).stage.spent, id ∈ (p.threads j).stage.spent → i = j

theorem CodesKept.next (h : CodesKept p) (halone : SelectsAlone ⟨p, x, serve lib p x⟩) :
    CodesKept (serve lib p x) := by
  have hone : ∀ i j, ((serve lib p x).threads i).stage.chosen ≠ [] →
      ((serve lib p x).threads j).stage.chosen ≠ [] → i = j := by
    refine one_next (K := fun r : VerifyRequest => r.stage.chosen ≠ []) h.one fun hnew => ?_
    by_cases hb : (p.threads x.1).stage.chosen = []
    · right
      intro j hj
      rw [not_not]
      refine halone hb ?_ j hj
      rw [stageAfter, next_own]
      exact hnew
    · exact .inl hb
  rcases next_rows lib (p.threads x.1).code x.2 p.shared (p.threads x.1).stage with
    ⟨hdb, hspent, hrows⟩ | ⟨t, bc, used, hstage, hid, hused, hnext⟩
  · have hs : ∀ k, ((serve lib p x).threads k).stage.spent = (p.threads k).stage.spent := by
      intro k
      by_cases hk : k = x.1
      · rw [hk, next_own]
        exact hspent
      · rw [next_other hk]
    refine ⟨hone, ?_, ?_, ?_⟩
    · refine forall_next (L := fun (db : TwoFADb) _ (r : VerifyRequest) =>
        ∀ bc ∈ r.stage.chosen, bc ∈ db.backupCodes ∧ bc.isUsed = false) ?_ ?_
      · intro bc hbc
        rw [next_shared, VerifyRequest.next, hdb]
        exact (hrows bc hbc).elim (h.unused x.1 bc) id
      · intro j _ bc hbc
        rw [next_shared, VerifyRequest.next, hdb]
        exact h.unused j bc hbc
    · intro k id hk
      rw [hs] at hk
      rw [TwoFADb.Used, next_shared, VerifyRequest.next, hdb]
      exact h.used k id hk
    · intro i j id hi hj
      rw [hs] at hi hj
      exact h.once i j id hi hj
  · -- the row is unused, so no other request was authenticated by it
    have hrow := h.unused x.1 bc (by rw [hstage]; exact mem_singleton_self bc)
    have hfree : ∀ j, bc.id ∉ (p.threads j).stage.spent := by
      intro j hj
      have := h.used j bc.id hj bc hrow.1 rfl
      rw [hrow.2] at this
      cases this
    have hshared : (serve lib p x).shared = p.shared.saveBackupCode used := by
      rw [next_shared, VerifyRequest.next, hnext]
    have hown : ((serve lib p x).threads x.1).stage = .backupUsed t bc := by
      rw [next_own, VerifyRequest.next, hnext]
    have hother : ∀ j, j ≠ x.1 → (serve lib p x).threads j = p.threads j := fun j hj =>
      next_other hj
    refine ⟨hone, fun k row hk => ?_, fun k id hk => ?_, fun i j id hi hj => ?_⟩
    · by_cases hkx : k = x.1
      · rw [hkx, hown] at hk
        exact absurd hk not_mem_nil
      · rw [hother k hkx] at hk
        refine absurd (h.one k x.1 (ne_nil_of_mem hk) ?_) hkx
        rw [hstage]
        exact cons_ne_nil bc []
    · rw [hshared]
      by_cases hkx : k = x.1
      · rw [hkx, hown] at hk
        cases hk
        exact .save (.inr hid.symm) hused
      · rw [hother k hkx] at hk
        exact .save (.inl (h.used k id hk)) hused
    · have hnot : ∀ k, k ≠ x.1 → id ∈ ((serve lib p x).threads k).stage.spent →
          id ∉ ((serve lib p x).threads x.1).stage.spent := by
        intro k hk hmem hx
        rw [hown] at hx
        cases hx
        rw [hother k hk] at hmem
        exact hfree k hmem
      by_cases hix : i = x.1
      · subst hix
        by_contra hne
        exact hnot j (Ne.symm hne) hj hi
      · by_cases hjx : j = x.1
        · subst hjx
          exact absurd hj (hnot i hix hi)
        · rw [hother i hix] at hi
          rw [hother j hjx] at hj
          exact h.once i j id hi hj

omit [DecidableEq ι] in
theorem CodesKept.usedOnce (h : CodesKept p) : UsedOnce p := by
  intro i j id hi hj
  refine h.once i j id ?_ ?_
  · rw [hi]
    exact rfl
  · rw [hj]
    exact rfl

/-! ## Wrong codes -/

def TwoFADb.failedAttempts (db : TwoFADb) : Nat :=
  match db.twoFA with
  | some t => t.failedAttempts
  | none => 0

/-- The record has a primary key, and the copy of the request is the record. -/
structure UpToDate (db : TwoFADb) (stage : Verification) : Prop where
  key : ∀ t ∈ db.twoFA, t.id ≠ 0
  copy : ∀ t ∈ stage.copy, db.twoFA = some t

theorem TwoFADb.update_stored {t : TwoFA} (h : t.id ≠ 0) :
    (db.update t none).twoFA = some t := by
  rw [TwoFADb.update, if_neg (by simp [h])]

theorem TwoFA.incrementFailedAttempts_id (t : TwoFA) (now : Int) :
    (t.incrementFailedAttempts now).id = t.id := by
  unfold TwoFA.incrementFailedAttempts
  dsimp only
  split <;> rfl

theorem TwoFA.incrementFailedAttempts_count (t : TwoFA) (now : Int) :
    (t.incrementFailedAttempts now).failedAttempts = t.failedAttempts + 1 ∧
      (t.failedAttempts + 1 < maxFailAttempts ∨
        (t.incrementFailedAttempts now).lockedUntil = some (now + lockoutDuration)) := by
  unfold TwoFA.incrementFailedAttempts
  dsimp only
  split
  next => exact ⟨rfl, .inr rfl⟩
  next h => exact ⟨rfl, .inl (Nat.lt_of_not_le h)⟩

/-- **One statement.** A request that succeeds is at its end; one whose code is found wrong leaves
the record alone and counts the failure with its next statement, and the fifth one locks. -/
theorem next_counts (lib : TwoFALib) (code : String) (h : UpToDate db stage)
    (hsaved : stage.isWrong = true → tick.fault = none) (s : Verification × TwoFADb)
    (hs : stage.next lib code tick db = s) :
    (stage.isSuccess = false ∧ s.1.isSuccess = true) ∧ s.1.copy = none ∧
      (∀ t ∈ s.2.twoFA, t.id ≠ 0) ∨
    UpToDate s.2 s.1 ∧ (s.1.copy ≠ none → stage.copy ≠ none ∨ stage = .start) ∧
      (s.2.twoFA = db.twoFA ∧ stage.isWrong = false ∨
        stage.isWrong = true ∧ s.1.isWrong = false ∧ ∃ t t', db.twoFA = some t ∧
          s.2.twoFA = some t' ∧ t'.failedAttempts = t.failedAttempts + 1 ∧
          (t'.failedAttempts < maxFailAttempts ∨
            t'.lockedUntil = some (tick.now + lockoutDuration))) := by
  have hend : ∀ {outcome}, UpToDate db (.done outcome) := ⟨h.key, nofun⟩
  -- a failure is counted on the copy, which is the record
  have hcount : ∀ t, db.twoFA = some t → stage.isWrong = true →
      (db.update (t.incrementFailedAttempts tick.now) tick.fault).twoFA =
        some (t.incrementFailedAttempts tick.now) ∧
      (t.incrementFailedAttempts tick.now).id ≠ 0 := by
    intro t ht hwrong
    have hid : (t.incrementFailedAttempts tick.now).id ≠ 0 := by
      rw [TwoFA.incrementFailedAttempts_id]
      exact h.key t ht
    rw [hsaved hwrong]
    exact ⟨TwoFADb.update_stored hid, hid⟩
  have hmark : ∀ t, db.twoFA = some t →
      ∀ t' ∈ (db.update (t.markUsed tick.now) tick.fault).twoFA, t'.id ≠ 0 := by
    intro t ht t' ht'
    unfold TwoFADb.update at ht'
    split at ht'
    · exact h.key t' ht'
    · cases ht'
      exact h.key t ht
  subst hs
  cases stage with
  | start =>
    right
    rw [Verification.next]
    split
    · exact ⟨hend, nofun, .inl ⟨rfl, rfl⟩⟩
    · exact ⟨hend, nofun, .inl ⟨rfl, rfl⟩⟩
    next t _ ht =>
      have hread : ∀ s : Verification, s.copy = some t → UpToDate db s := fun s hs =>
        ⟨h.key, fun t' ht' => by rw [ht, ← hs]; exact ht'⟩
      split
      · split <;> exact ⟨hread _ rfl, fun _ => .inr rfl, .inl ⟨rfl, rfl⟩⟩
      · exact ⟨hend, nofun, .inl ⟨rfl, rfl⟩⟩
  | totp t cleanCode =>
    right
    simp only [Verification.next]
    (repeat' split) <;> exact ⟨⟨h.key, h.copy⟩, fun _ => .inl nofun, .inl ⟨rfl, rfl⟩⟩
  | totpWrong t =>
    right
    have ht := h.copy t rfl
    obtain ⟨hstored, hid⟩ := hcount t ht rfl
    obtain ⟨hone, hlock⟩ := t.incrementFailedAttempts_count tick.now
    refine ⟨⟨fun t' ht' => ?_, fun t' ht' => ?_⟩, fun _ => .inl nofun, .inr ⟨rfl, rfl, t, _, ht,
      hstored, hone, hone ▸ hlock⟩⟩
    · rw [Verification.next, hstored] at ht'
      cases ht'
      exact hid
    · cases ht'
      exact hstored
  | totpRight t => exact .inl ⟨⟨rfl, rfl⟩, rfl, hmark t (h.copy t rfl)⟩
  | backup t =>
    right
    simp only [Verification.next]
    (repeat' split) <;>
      first
        | exact ⟨hend, nofun, .inl ⟨rfl, rfl⟩⟩
        | exact ⟨⟨h.key, h.copy⟩, fun _ => .inl nofun, .inl ⟨rfl, rfl⟩⟩
  | compare t backupCodes =>
    right
    simp only [Verification.next]
    split <;> exact ⟨⟨h.key, h.copy⟩, fun _ => .inl nofun, .inl ⟨rfl, rfl⟩⟩
  | backupWrong t =>
    right
    have ht := h.copy t rfl
    obtain ⟨hstored, hid⟩ := hcount t ht rfl
    obtain ⟨hone, hlock⟩ := t.incrementFailedAttempts_count tick.now
    refine ⟨⟨fun t' ht' => ?_, nofun⟩, nofun, .inr ⟨rfl, rfl, t, _, ht, hstored, hone,
      hone ▸ hlock⟩⟩
    rw [Verification.next, hstored] at ht'
    cases ht'
    exact hid
  | backupRight t bc =>
    right
    simp only [Verification.next]
    split
    · exact ⟨hend, nofun, .inl ⟨rfl, rfl⟩⟩
    · exact ⟨⟨h.key, h.copy⟩, fun _ => .inl nofun, .inl ⟨rfl, rfl⟩⟩
  | backupUsed t bc => exact .inl ⟨⟨rfl, rfl⟩, rfl, hmark t (h.copy t rfl)⟩
  | done outcome => exact .inr ⟨hend, nofun, .inl ⟨rfl, rfl⟩⟩

/-- One request at most holds a copy of the record, and the copy is the record. -/
structure RecordKept (p : Pool.State ι VerifyRequest TwoFADb) : Prop where
  one : ∀ i j, (p.threads i).stage.copy ≠ none → (p.threads j).stage.copy ≠ none → i = j
  upToDate : ∀ i, UpToDate p.shared (p.threads i).stage

theorem RecordKept.next (h : RecordKept p) (halone : ReadsAlone ⟨p, x, serve lib p x⟩)
    (hsaved : SavesCount ⟨p, x, serve lib p x⟩) : RecordKept (serve lib p x) := by
  have hstep := next_counts lib (p.threads x.1).code (h.upToDate x.1) hsaved _ rfl
  have hkey : ∀ t ∈ (serve lib p x).shared.twoFA, t.id ≠ 0 := by
    rcases hstep with ⟨-, -, hkey⟩ | ⟨hdate, -, -⟩
    · exact hkey
    · exact hdate.key
  have hfree : (p.threads x.1).stage.copy ≠ none ∨ (p.threads x.1).stage = .start →
      ∀ j, j ≠ x.1 → (p.threads j).stage.copy = none := by
    rintro (hcopy | hstart) j hj
    · by_contra hne
      exact hj (h.one j x.1 hne hcopy)
    · exact halone hstart j hj
  constructor
  · refine one_next (K := fun r : VerifyRequest => r.stage.copy ≠ none) h.one fun hnew => ?_
    rcases hstep with ⟨-, hnone, -⟩ | ⟨-, hcopy, -⟩
    · exact absurd hnone hnew
    · exact .inr fun j hj => not_not.2 (hfree (hcopy hnew) j hj)
  · refine forall_next (L := fun (db : TwoFADb) _ (r : VerifyRequest) => UpToDate db r.stage) ?_ ?_
    · rcases hstep with ⟨-, hnone, -⟩ | ⟨hdate, -, -⟩
      · refine ⟨hkey, fun t ht => ?_⟩
        rw [VerifyRequest.next, hnone] at ht
        cases ht
      · exact hdate
    · intro j hj
      refine ⟨hkey, fun t ht => ?_⟩
      rcases Classical.em ((p.threads x.1).stage.copy = none) with hnone | hcopy
      · -- a request without a copy saves nothing
        have hsame : (serve lib p x).shared.twoFA = p.shared.twoFA := by
          rw [next_shared, VerifyRequest.next]
          cases hstage : (p.threads x.1).stage with
          | start =>
            simp only [Verification.next]
            (repeat' split) <;> rfl
          | done outcome => rfl
          | _ =>
            rw [hstage] at hnone
            cases hnone
        rw [hsame]
        exact (h.upToDate j).copy t ht
      · rw [hfree (.inl hcopy) j hj] at ht
        cases ht

/-- So many wrong codes can still be evaluated before the next one locks the record. -/
structure Room (p : Pool.State ι VerifyRequest TwoFADb) (n : Nat) : Prop where
  found : ∀ i, (p.threads i).stage.isWrong = true →
    maxFailAttempts ≤ p.shared.failedAttempts + n + 1
  unfound : (∀ i, (p.threads i).stage.isWrong = false) →
    1 ≤ n ∧ maxFailAttempts ≤ p.shared.failedAttempts + n

omit [DecidableEq ι] in
theorem room_max : Room p maxFailAttempts where
  found _ _ := by omega
  unfound _ := ⟨by decide, by omega⟩

theorem Verification.copy_ne_none_of_isWrong (h : stage.isWrong = true) : stage.copy ≠ none := by
  cases stage with
  | totpWrong t | backupWrong t => exact Option.some_ne_none t
  | _ => cases h

/-- A step that sees no success and no lock takes the room for the wrong code it evaluates. -/
theorem Room.next {n : Nat} (hroom : Room p n) (h : RecordKept p)
    (hsaved : SavesCount ⟨p, x, serve lib p x⟩)
    (hsucc : succeeded ⟨p, x, serve lib p x⟩ = false)
    (hlock : lockedFor ⟨p, x, serve lib p x⟩ = false) (hafter : RecordKept (serve lib p x)) :
    if evaluatedWrong ⟨p, x, serve lib p x⟩ then ∃ m, n = m + 1 ∧ Room (serve lib p x) m
    else Room (serve lib p x) n := by
  have hstep := next_counts lib (p.threads x.1).code (h.upToDate x.1) hsaved _ rfl
  have hown : stageAfter ⟨p, x, serve lib p x⟩ =
      ((p.threads x.1).stage.next lib (p.threads x.1).code x.2 p.shared).1 := by
    rw [stageAfter, next_own, VerifyRequest.next]
  have hdb : (serve lib p x).shared =
      ((p.threads x.1).stage.next lib (p.threads x.1).code x.2 p.shared).2 := by
    rw [next_shared, VerifyRequest.next]
  rw [succeeded, hown] at hsucc
  unfold evaluatedWrong
  rw [hown]
  rw [lockedFor, hdb] at hlock
  generalize (p.threads x.1).stage.next lib (p.threads x.1).code x.2 p.shared = s at *
  rcases hstep with ⟨⟨h1, h2⟩, -, -⟩ |
    ⟨-, -, ⟨hsame, hright⟩ | ⟨hwrong, hs, t, t', ht, ht', hone, h5⟩⟩
  · rw [h1, h2] at hsucc
    cases hsucc
  · have hcount : (serve lib p x).shared.failedAttempts = p.shared.failedAttempts := by
      rw [hdb, TwoFADb.failedAttempts, hsame, TwoFADb.failedAttempts]
    have hother : ∀ i, i ≠ x.1 → (serve lib p x).threads i = p.threads i := fun _ => next_other
    cases hw : s.1.isWrong with
    | true =>
      -- the request is the only one with a copy, so no other is at a wrong code
      have hnone : ∀ i, (p.threads i).stage.isWrong = false := by
        intro i
        by_cases hi : i = x.1
        · rw [hi]
          exact hright
        · by_contra hne
          rw [Bool.not_eq_false, ← hother i hi] at hne
          refine hi (hafter.one i x.1 (Verification.copy_ne_none_of_isWrong hne) ?_)
          apply Verification.copy_ne_none_of_isWrong
          rw [← hw, ← hown]
      obtain ⟨hpos, hn⟩ := hroom.unfound hnone
      refine ⟨n - 1, by omega, fun i _ => by omega, fun hall => ?_⟩
      have := hall x.1
      rw [stageAfter] at hown
      rw [hown, hw] at this
      cases this
    | false =>
      have hsame' : ∀ i, ((serve lib p x).threads i).stage.isWrong =
          (p.threads i).stage.isWrong := by
        intro i
        by_cases hi : i = x.1
        · rw [hi, hright, ← hw, ← hown]
        · rw [hother i hi]
      refine ⟨fun i hi => ?_, fun hall => ?_⟩
      · rw [hcount]
        exact hroom.found i (hsame' i ▸ hi)
      · rw [hcount]
        exact hroom.unfound fun i => hsame' i ▸ hall i
  · have hcount : (serve lib p x).shared.failedAttempts = p.shared.failedAttempts + 1 := by
      rw [hdb, TwoFADb.failedAttempts, ht', TwoFADb.failedAttempts, ht]
      exact hone
    have hfew : p.shared.failedAttempts + 1 < maxFailAttempts := by
      rcases h5 with h5 | h5
      · rw [TwoFADb.failedAttempts, ht, ← hone]
        exact h5
      · rw [ht'] at hlock
        simp [h5] at hlock
    have hn := hroom.found x.1 hwrong
    rw [hs]
    exact ⟨fun i _ => by omega, fun _ => by omega⟩

/-- **A run** of requests that read the record one after the other. -/
theorem Room.run {schedule : List (ι × Tick)} {n : Nat} (hroom : Room p n) (h : RecordKept p)
    (hall : ∀ e ∈ Run.trace (serve lib) p schedule, ReadsAlone e ∧ SavesCount e)
    (seg : List (VerifyEv ι)) (hseg : seg <+: Run.trace (serve lib) p schedule)
    (hquiet : ∀ e ∈ seg, succeeded e = false ∧ lockedFor e = false) :
    (seg.filter evaluatedWrong).length ≤ n := by
  induction schedule generalizing p n seg with
  | nil =>
    rw [prefix_nil.1 hseg]
    exact Nat.zero_le n
  | cons x xs ih =>
    cases seg with
    | nil => exact Nat.zero_le n
    | cons e seg =>
      rw [Run.trace, forall_mem_cons] at hall
      rw [Run.trace, cons_prefix_cons] at hseg
      obtain ⟨rfl, hseg⟩ := hseg
      obtain ⟨⟨h1, h2⟩, hquiet⟩ := forall_mem_cons.1 hquiet
      have hafter := h.next hall.1.1 hall.1.2
      have hstep := hroom.next h hall.1.2 h1 h2 hafter
      split at hstep
      next hw =>
        obtain ⟨m, rfl, hm⟩ := hstep
        rw [filter_cons_of_pos hw, length_cons]
        have := ih hm hafter hall.2 seg hseg hquiet
        omega
      next hw =>
        rw [filter_cons_of_neg hw]
        exact ih hstep hafter hall.2 seg hseg hquiet

theorem RecordKept.fewWrong {schedule : List (ι × Tick)} (h : RecordKept p)
    (hall : ∀ e ∈ Run.trace (serve lib) p schedule, ReadsAlone e ∧ SavesCount e) :
    FewWrong (Run.trace (serve lib) p schedule) := by
  intro seg hseg hquiet
  induction schedule generalizing p with
  | nil =>
    rw [infix_nil.1 hseg]
    exact Nat.zero_le _
  | cons x xs ih =>
    rcases infix_cons_iff.1 hseg with hpre | hseg
    · exact room_max.run h hall seg hpre hquiet
    · rw [Run.trace, forall_mem_cons] at hall
      exact ih (h.next hall.1.1 hall.1.2) hall.2 hseg

/-- **Both bounds hold for requests that are kept apart.** In every run in which no request gets
hold of unused codes while another one holds some, a backup code authenticates one request at most;
and in every run in which no request reads the record while another one holds a copy of it and the
failures counted are saved, at most `MaxFailAttempts` wrong codes are evaluated before a success or
a lock. -/
theorem two_factor_bounds_apart (lib : TwoFALib) (codes : ι → String) (db : TwoFADb)
    (hid : ∀ t ∈ db.twoFA, t.id ≠ 0) (schedule : List (ι × Tick)) :
    ((∀ e ∈ Run.trace (serve lib) (verifications codes db) schedule, SelectsAlone e) →
      UsedOnce (Run.final (serve lib) (verifications codes db) schedule)) ∧
    ((∀ e ∈ Run.trace (serve lib) (verifications codes db) schedule,
        ReadsAlone e ∧ SavesCount e) →
      FewWrong (Run.trace (serve lib) (verifications codes db) schedule)) := by
  constructor
  · intro h
    have h0 : CodesKept (verifications codes db) := by
      refine ⟨fun i j hi _ => absurd rfl hi, fun i bc hbc => absurd hbc not_mem_nil, ?_, ?_⟩
      · exact fun i id hid => by cases hid
      · exact fun i j id hi _ => by cases hi
    refine (guarded_final (G := fun p x => SelectsAlone ⟨p, x, serve lib p x⟩) h0 (fun e he => ?_)
      fun p x hx hp => hp.next hx).usedOnce
    have hstep := (trace_invariant (P := fun _ => True) trivial (fun _ _ _ _ => trivial) he).2.2
    rw [← hstep]
    exact h e he
  · exact RecordKept.fewWrong ⟨fun i j hi _ => absurd rfl hi, fun i => ⟨hid, nofun⟩⟩

end Runs

section Fixtures

def plainTwoFALib : TwoFALib where
  totpValidate passcode secret _ := passcode == secret
  validatePasswordAndHash password hash := password == hash
  formatTime _ := ""
  toUpper := Char.toUpper

def plainTwoFA : TwoFA := ⟨1, 1, "123456", true, 0, none, none⟩

def oneCodeDb : TwoFADb where
  twoFA := some plainTwoFA
  backupCodes := [⟨1, 1, "AAAA-BBBB", false, none⟩]
  keyed := by decide

/-- Seven requests, one after the other. -/
def oneByOne : List (Fin 7 × Tick) := (finRange 7).flatMap fun i => replicate 5 (i, ⟨0, none⟩)

def oneByOneCodes (i : Fin 7) : String := if i < 2 then "aaaa-bbbb" else "000000"

/-- The backup code is used and then found wrong, and with four more wrong codes the record is
locked before the last request. -/
theorem two_factor_bounds_in_turn :
    UsedOnce (Run.final (serve plainTwoFALib) (verifications oneByOneCodes oneCodeDb) oneByOne) ∧
    FewWrong (Run.trace (serve plainTwoFALib) (verifications oneByOneCodes oneCodeDb) oneByOne) ∧
    ((Run.trace (serve plainTwoFALib) (verifications oneByOneCodes oneCodeDb) oneByOne).filter
      evaluatedWrong).length = 5 := by
  have hid : ∀ t ∈ oneCodeDb.twoFA, t.id ≠ 0 := by
    intro t ht
    cases ht
    decide
  obtain ⟨honce, hfew⟩ := two_factor_bounds_apart plainTwoFALib oneByOneCodes oneCodeDb hid oneByOne
  exact ⟨honce (by decide +kernel), hfew (by decide +kernel), by decide +kernel⟩

/-- Two requests are authenticated by one backup code; six requests with a wrong code are compared
before the first failure is saved, and their saves leave a count of one and no lock. -/
theorem two_factor_bounds_broken :
    (let schedule := [false, false, true, true, false, false, false, true, true, true].map
        fun i => (i, (⟨0, none⟩ : Tick))
      ∀ i, ((Run.final (Pool.next (VerifyRequest.next plainTwoFALib))
        (verifications (fun _ => "AAAA-BBBB") oneCodeDb) schedule).threads i).stage =
          .done (.backupCode 1)) ∧
    (let requests := List.finRange 6
      let schedule := (requests.flatMap fun i => [i, i]) ++ requests
      let es := Run.trace (Pool.next (VerifyRequest.next plainTwoFALib))
        (verifications (fun _ => "000000") oneCodeDb)
        (schedule.map fun i => (i, (⟨0, none⟩ : Tick)))
      (es.filter evaluatedWrong).length = 6 ∧
        (∀ e ∈ es, succeeded e = false ∧ lockedFor e = false) ∧
        (es.getLast?.bind fun e => e.after.shared.twoFA) =
          some { plainTwoFA with failedAttempts := 1 }) := by
  decide +kernel

end Fixtures

end Xingkong
