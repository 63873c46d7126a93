import Xingkong.Model.Json

/-!
# Two-factor verification

A user has one record with a secret and a count of failed attempts, and a few backup codes. A
verification request reads the record, tries its code as a one-time code and then as a backup code,
and saves what changed: each read and each save is a statement of its own, and between them the
request works on the copy it read. A request is a state that moves by one statement, or by one
comparison of its code, at a time.
-/

namespace Xingkong

/-! ## Codes -/

def backupCodeLength : Nat := 8

def maxFailAttempts : Nat := 5

/-- `LockoutDuration`, in nanoseconds. -/
def lockoutDuration : Int := 300 * 1000000000

/-- The libraries of the verification: `totp.Validate` at a time, bcrypt's comparison, the format
of a time in a message, and `unicode.ToUpper`, which `strings.ToUpper` maps over a text. -/
structure TwoFALib where
  totpValidate : (passcode secret : String) → (now : Int) → Bool
  validatePasswordAndHash : (password hash : String) → Bool
  formatTime : Int → String
  toUpper : Char → Char

variable (lib : TwoFALib)

def validateTOTPCode (secret code : String) (now : Int) : Bool :=
  let cleanCode := replaceAll code " " ""
  cleanCode.utf8ByteSize == 6 && lib.totpValidate cleanCode secret now

/-- The code without its spaces, if it is a number of six digits. -/
def validateNumericCode (code : String) : Option String :=
  let code := replaceAll code " " ""
  if code.utf8ByteSize ≠ 6 then none
  else (atoi code).map fun _ => code

def cleanBackupCode (code : String) : String :=
  String.ofList ((replaceAll code "-" "").toList.map lib.toUpper)

/-- `ValidateBackupCode` of the common package: the format of a backup code. -/
def validateBackupCode (code : String) : Bool :=
  (cleanBackupCode lib code).utf8ByteSize == backupCodeLength &&
    (cleanBackupCode lib code).toList.all fun char =>
      ('A' ≤ char && char ≤ 'Z') || ('0' ≤ char && char ≤ '9')

/-- `NormalizeBackupCode`, for a code of that format. -/
def normalizeBackupCode (code : String) : String :=
  let cleanCode := cleanBackupCode lib code
  if cleanCode.utf8ByteSize = backupCodeLength then
    String.ofList (cleanCode.toList.take 4 ++ '-' :: cleanCode.toList.drop 4)
  else code

/-! ## Records -/

structure TwoFA where
  id : Nat
  userId : Nat
  secret : String
  isEnabled : Bool
  failedAttempts : Nat
  lockedUntil : Option Int
  lastUsedAt : Option Int
deriving DecidableEq

structure TwoFABackupCode where
  id : Nat
  userId : Nat
  codeHash : String
  isUsed : Bool
  usedAt : Option Int
deriving DecidableEq

namespace TwoFA

variable (t : TwoFA)

def isLocked (now : Int) : Bool :=
  match t.lockedUntil with
  | none => false
  | some u => now < u

/-- What `IncrementFailedAttempts` makes of the copy it then saves. -/
def incrementFailedAttempts (now : Int) : TwoFA :=
  let t := { t with failedAttempts := t.failedAttempts + 1 }
  if maxFailAttempts ≤ t.failedAttempts then
    { t with lockedUntil := some (now + lockoutDuration) }
  else t

def markUsed (now : Int) : TwoFA :=
  { t with failedAttempts := 0, lockedUntil := none, lastUsedAt := some now }

end TwoFA

/-- The user's record and the table of backup codes, by its primary key. -/
structure TwoFADb where
  twoFA : Option TwoFA
  backupCodes : List TwoFABackupCode
  keyed : (backupCodes.map (·.id)).Nodup

namespace TwoFADb

variable (db : TwoFADb)

def unusedBackupCodes (userId : Nat) : List TwoFABackupCode :=
  db.backupCodes.filter fun bc => bc.userId == userId && !bc.isUsed

/-- `DB.Save` of a backup code: the whole row. -/
def saveBackupCode (bc : TwoFABackupCode) : TwoFADb where
  twoFA := db.twoFA
  backupCodes := db.backupCodes.map fun row => if row.id = bc.id then bc else row
  keyed := by
    have hids : (db.backupCodes.map fun row => if row.id = bc.id then bc else row).map (·.id) =
        db.backupCodes.map (·.id) := by
      rw [List.map_map]
      apply List.map_congr_left
      intro row _
      show (if row.id = bc.id then bc else row).id = row.id
      split
      next h => exact h.symm
      next => rfl
    rw [hids]
    exact db.keyed

/-- `Update`: the whole row is saved. A failure is only logged. -/
def update (t : TwoFA) (fault : Option String) : TwoFADb :=
  if t.id = 0 ∨ fault ≠ none then db else { db with twoFA := some t }

end TwoFADb

/-! ## Requests -/

inductive TwoFAOutcome
  | totp
  | backupCode (id : Nat)
  | refused (message : String)
deriving DecidableEq

/-- Where a request stands; `t` is its copy of the record. -/
inductive Verification
  | start
  | totp (t : TwoFA) (cleanCode : String)
  | totpWrong (t : TwoFA)
  | totpRight (t : TwoFA)
  | backup (t : TwoFA)
  | compare (t : TwoFA) (backupCodes : List TwoFABackupCode)
  | backupWrong (t : TwoFA)
  | backupRight (t : TwoFA) (bc : TwoFABackupCode)
  | backupUsed (t : TwoFA) (bc : TwoFABackupCode)
  | done (outcome : TwoFAOutcome)
deriving DecidableEq

/-- When a step is taken, and the error its statement ends with. -/
structure Tick where
  now : Int
  fault : Option String

structure VerifyRequest where
  code : String
  stage : Verification
deriving DecidableEq

def TwoFA.lockedMessage (t : TwoFA) : String :=
  "账户已被锁定，请在" ++ (t.lockedUntil.map lib.formatTime).getD "" ++ "后重试"

/-- The comparison of the loop of `ValidateBackupCode`. -/
def matchesBackupCode (code : String) (bc : TwoFABackupCode) : Bool :=
  lib.validatePasswordAndHash (normalizeBackupCode lib code) bc.codeHash

/-- `Verify2FALogin` from the read of the record on, with `ValidateTOTPAndUpdateUsage` and
`ValidateBackupCodeAndUpdateUsage`: one statement or one comparison. -/
def Verification.next (code : String) (tick : Tick) (db : TwoFADb) :
    Verification → Verification × TwoFADb
  | .start =>
    match tick.fault, db.twoFA with
    | some err, _ => (.done (.refused err), db)
    | none, none => (.done (.refused "用户未启用2FA"), db)
    | none, some t =>
      if t.isEnabled then
        match validateNumericCode code with
        | some cleanCode => (.totp t cleanCode, db)
        | none => (.backup t, db)
      else (.done (.refused "用户未启用2FA"), db)
  | .totp t cleanCode =>
    -- the error of a locked record is dropped and the code is tried as a backup code
    if t.isLocked tick.now then (.backup t, db)
    else if validateTOTPCode lib t.secret cleanCode tick.now then (.totpRight t, db)
    else (.totpWrong t, db)
  | .totpWrong t =>
    let t := t.incrementFailedAttempts tick.now
    (.backup t, db.update t tick.fault)
  | .totpRight t => (.done .totp, db.update (t.markUsed tick.now) tick.fault)
  | .backup t =>
    if t.isLocked tick.now then (.done (.refused (t.lockedMessage lib)), db)
    else if !validateBackupCode lib code then (.done (.refused "验证码或备用码不正确"), db)
    else
      match tick.fault with
      | some err => (.done (.refused err), db)
      | none => (.compare t (db.unusedBackupCodes t.userId), db)
  | .compare t backupCodes =>
    match backupCodes.find? (matchesBackupCode lib code) with
    | some bc => (.backupRight t bc, db)
    | none => (.backupWrong t, db)
  | .backupWrong t =>
    (.done (.refused "验证码或备用码错误，请重试"),
      db.update (t.incrementFailedAttempts tick.now) tick.fault)
  | .backupRight t bc =>
    match tick.fault with
    | some err => (.done (.refused err), db)
    | none =>
      let used := { bc with isUsed := true, usedAt := some tick.now }
      (.backupUsed t bc, db.saveBackupCode used)
  | .backupUsed t bc =>
    (.done (.backupCode bc.id), db.update (t.markUsed tick.now) tick.fault)
  | .done outcome => (.done outcome, db)

def VerifyRequest.next (r : VerifyRequest) (tick : Tick) (db : TwoFADb) :
    VerifyRequest × TwoFADb :=
  let (stage, db) := r.stage.next lib r.code tick db
  ({ r with stage }, db)

end Xingkong
