import Mathlib.Data.List.Basic
import Mathlib.Tactic.FinCases

/-!
# JSON string literals

`quote` writes a text as a JSON string: quotes, backslashes and control characters are escaped,
everything else stands for itself. `parseBody` reads what follows the opening quote, up to a
closing quote that has to be the last character. Reading is the inverse of writing, and a
written literal has no closing quote before its end (`parseBody_front`).
-/

namespace JsonString

open List

/-- Over the characters of the text, not over all there are. -/
instance (priority := 2000) decidableBAll {t : List Char} {p : Char → Prop} [DecidablePred p] :
    Decidable (∀ c ∈ t, p c) := List.decidableBAll p t

/-- Written as itself. -/
def plain (c : Char) : Bool := c != '"' && c != '\\' && decide (0x20 ≤ c.toNat)

/-- The characters with an escape of one letter, and the letter. -/
def escapes : List (Char × Char) :=
  [('"', '"'), ('\\', '\\'), ('\x08', 'b'), ('\t', 't'), ('\n', 'n'), ('\x0c', 'f'), ('\r', 'r')]

def shortEscape (c : Char) : Option Char := (escapes.find? fun p => p.1 == c).map Prod.snd

def readShort (e : Char) : Option Char :=
  if e = '/' then some '/' else (escapes.find? fun p => p.2 == e).map Prod.fst

def hexDigit (n : Nat) : Char := Char.ofNat (if n < 10 then 48 + n else 87 + n)

def hexValue (c : Char) : Option Nat :=
  let n := c.toNat
  if 48 ≤ n ∧ n ≤ 57 then some (n - 48)
  else if 97 ≤ n ∧ n ≤ 102 then some (n - 87)
  else if 65 ≤ n ∧ n ≤ 70 then some (n - 55)
  else none

def hexUnit (a b c d : Char) : Option Nat := do
  let a ← hexValue a
  let b ← hexValue b
  let c ← hexValue c
  let d ← hexValue d
  return ((a * 16 + b) * 16 + c) * 16 + d

def escapeChar (c : Char) : List Char :=
  if plain c then [c]
  else '\\' :: match shortEscape c with
    | some e => [e]
    | none => ['u', '0', '0', hexDigit (c.toNat / 16), hexDigit (c.toNat % 16)]

def escape (t : List Char) : List Char := t.flatMap escapeChar

/-- A text as a JSON string literal. -/
def quote (t : List Char) : List Char := '"' :: (escape t ++ ['"'])

/-- The text a JSON string stands for, read from behind its opening quote. A text is a list of
characters, so a surrogate that is escaped on its own has no value. -/
def parseBody : List Char → Option (List Char)
  | [] => none
  | c :: rest =>
    if c = '"' then if rest.isEmpty then some [] else none
    else if c = '\\' then
      match rest with
      | [] => none
      | e :: rest =>
        match readShort e with
        | some x => (parseBody rest).map (x :: ·)
        | none =>
          if e = 'u' then
            match rest with
            | h₁ :: h₂ :: h₃ :: h₄ :: rest =>
              match hexUnit h₁ h₂ h₃ h₄ with
              | none => none
              | some unit =>
                if 0xD800 ≤ unit ∧ unit < 0xDC00 then
                  match rest with
                  | '\\' :: 'u' :: l₁ :: l₂ :: l₃ :: l₄ :: rest =>
                    match hexUnit l₁ l₂ l₃ l₄ with
                    | none => none
                    | some low =>
                      if 0xDC00 ≤ low ∧ low < 0xE000 then
                        (parseBody rest).map
                          (Char.ofNat (0x10000 + (unit - 0xD800) * 0x400 + (low - 0xDC00)) :: ·)
                      else none
                  | _ => none
                else if 0xDC00 ≤ unit ∧ unit < 0xE000 then none
                else (parseBody rest).map (Char.ofNat unit :: ·)
            | _ => none
          else none
    else if c.toNat < 0x20 then none
    else (parseBody rest).map (c :: ·)

variable {t : List Char} {c x e : Char}

@[simp] theorem escape_nil : escape [] = [] := rfl

@[simp] theorem escape_cons : escape (c :: t) = escapeChar c ++ escape t := by simp [escape]

theorem escapeChar_of_plain (h : plain c = true) : escapeChar c = [c] := by
  rw [escapeChar, if_pos h]

theorem plain_eq_false_iff : plain c = false ↔ c = '"' ∨ c = '\\' ∨ c.toNat < 0x20 := by
  simp only [plain, Bool.and_eq_false_iff, bne_eq_false_iff_eq, decide_eq_false_iff_not, not_le]
  tauto

theorem shortEscape_eq_none (h : shortEscape c = none) : c ≠ '"' ∧ c ≠ '\\' := by
  constructor
  all_goals
    rintro rfl
    exact absurd h (by decide)

theorem readShort_of_shortEscape (h : shortEscape c = some e) :
    readShort e = some c := by
  have hall : ∀ p ∈ escapes, readShort p.2 = some p.1 := by decide
  obtain ⟨p, hp, rfl⟩ := Option.map_eq_some_iff.mp h
  have hc : p.1 = c := by simpa using List.find?_some hp
  rw [hall p (List.mem_of_find?_eq_some hp), hc]

theorem escapeChar_cases (h : plain c = false) :
    (∃ e, escapeChar c = ['\\', e] ∧ readShort e = some c) ∨
      (c.toNat < 0x20 ∧ escapeChar c =
        ['\\', 'u', '0', '0', hexDigit (c.toNat / 16), hexDigit (c.toNat % 16)]) := by
  unfold escapeChar
  rw [h]
  cases hs : shortEscape c with
  | some e => exact .inl ⟨e, rfl, readShort_of_shortEscape hs⟩
  | none =>
    obtain ⟨h1, h2⟩ := shortEscape_eq_none hs
    rcases plain_eq_false_iff.mp h with h | h | h
    · exact absurd h h1
    · exact absurd h h2
    · exact .inr ⟨h, rfl⟩

/-- The characters of an escape. -/
def escapeLetters : List Char := "\\\"btnfru0123456789abcdef".toList

theorem mem_escapeChar (hx : x ∈ escapeChar c) :
    (x = c ∧ plain c = true) ∨
      (plain c = false ∧ x ∈ escapeLetters ∧ (x = '"' → c = '"')) := by
  have hshort : ∀ p ∈ escapes, p.2 ∈ escapeLetters ∧ (p.2 = '"' → p.1 = '"') := by decide
  have hhex : ∀ n < 16, hexDigit n ∈ escapeLetters ∧ hexDigit n ≠ '"' := by decide
  have hfixed : ∀ y ∈ ['\\', 'u', '0'], y ∈ escapeLetters ∧ y ≠ '"' := by decide
  have h1 := hfixed '\\' (by decide)
  unfold escapeChar at hx
  cases hp : plain c with
  | true =>
    rw [hp] at hx
    exact .inl ⟨mem_singleton.mp hx, rfl⟩
  | false =>
    refine .inr ⟨rfl, ?_⟩
    rw [hp, if_neg (by decide), mem_cons] at hx
    rcases hx with rfl | hx
    · exact ⟨h1.1, fun h => absurd h h1.2⟩
    cases hs : shortEscape c with
    | some e =>
      rw [hs] at hx
      obtain ⟨p, hp, rfl⟩ := Option.map_eq_some_iff.mp hs
      have hc : p.1 = c := by simpa using List.find?_some hp
      rw [mem_singleton.mp hx, ← hc]
      exact hshort p (List.mem_of_find?_eq_some hp)
    | none =>
      rw [hs] at hx
      have hlt : c.toNat < 0x20 := by
        obtain ⟨h1, h2⟩ := shortEscape_eq_none hs
        rcases plain_eq_false_iff.mp hp with h | h | h
        · exact absurd h h1
        · exact absurd h h2
        · exact h
      have hx' : x ∈ ['\\', 'u', '0'] ∨ ∃ n < 16, x = hexDigit n := by
        simp only [mem_cons, not_mem_nil, or_false] at hx ⊢
        rcases hx with rfl | rfl | rfl | rfl | rfl
        · exact .inl (.inr (.inl rfl))
        · exact .inl (.inr (.inr rfl))
        · exact .inl (.inr (.inr rfl))
        · exact .inr ⟨_, by omega, rfl⟩
        · exact .inr ⟨_, by omega, rfl⟩
      rcases hx' with hx' | ⟨n, hn, rfl⟩
      · exact ⟨(hfixed x hx').1, fun h => absurd h (hfixed x hx').2⟩
      · exact ⟨(hhex n hn).1, fun h => absurd h (hhex n hn).2⟩

theorem mem_escape (hx : x ∈ escape t) :
    (x ∈ t ∧ plain x = true) ∨ (x ∈ escapeLetters ∧ (x = '"' → '"' ∈ t)) := by
  obtain ⟨c, hc, hx⟩ := mem_flatMap.mp hx
  rcases mem_escapeChar hx with ⟨rfl, hp⟩ | ⟨-, hmem, hq⟩
  · exact .inl ⟨hc, hp⟩
  · refine .inr ⟨hmem, fun h => ?_⟩
    rw [← hq h]
    exact hc

theorem quote_mem_of_mem_escape (h : '"' ∈ escape t) : '"' ∈ t := by
  rcases mem_escape h with ⟨h, -⟩ | ⟨-, h⟩
  · exact h
  · exact h rfl

theorem length_le_escape : t.length ≤ (escape t).length := by
  induction t with
  | nil => exact le_rfl
  | cons c t ih =>
    have hpos : 1 ≤ (escapeChar c).length := by
      unfold escapeChar
      split <;> simp
    rw [escape_cons, length_append, length_cons]
    omega

/-- A text is written as itself exactly when all its characters are. -/
theorem escape_eq_self_iff : escape t = t ↔ ∀ c ∈ t, plain c = true := by
  induction t with
  | nil => simp
  | cons c t ih =>
    rw [escape_cons, forall_mem_cons]
    cases hp : plain c with
    | true =>
      rw [escapeChar_of_plain hp, singleton_append, List.cons.injEq, ih]
      simp
    | false =>
      constructor
      · intro h
        have hlen := congrArg List.length h
        have h1 : 2 ≤ (escapeChar c).length := by
          rcases escapeChar_cases hp with ⟨e, he, -⟩ | ⟨-, he⟩ <;> rw [he] <;> simp
        have := length_le_escape (t := t)
        rw [length_append, length_cons] at hlen
        omega
      · rintro ⟨h, -⟩
        cases h

/-! ## Reading back -/

theorem hexUnit_control {n : Nat} (h : n < 0x20) :
    hexUnit '0' '0' (hexDigit (n / 16)) (hexDigit (n % 16)) = some n := by
  have hall : ∀ k < 0x20, hexUnit '0' '0' (hexDigit (k / 16)) (hexDigit (k % 16)) = some k := by
    decide
  exact hall n h

variable {b : List Char}

theorem parseBody_plain (h : plain c = true) :
    parseBody (c :: b) = (parseBody b).map (c :: ·) := by
  have hc : ¬ (c = '"' ∨ c = '\\' ∨ c.toNat < 0x20) := by
    rw [← plain_eq_false_iff, h]
    decide
  push Not at hc
  rw [parseBody.eq_def]
  simp only [if_neg hc.1, if_neg hc.2.1, if_neg (not_lt.mpr hc.2.2)]

theorem parseBody_short (h : readShort e = some c) :
    parseBody ('\\' :: e :: b) = (parseBody b).map (c :: ·) := by
  have hq : ¬ '\\' = '"' := by decide
  rw [parseBody.eq_def]
  simp only [if_neg hq, if_true, h]

theorem parseBody_control (h : c.toNat < 0x20) :
    parseBody
    ('\\' :: 'u' :: '0' :: '0' :: hexDigit (c.toNat / 16) :: hexDigit (c.toNat % 16) :: b) =
      (parseBody b).map (c :: ·) := by
  have hu : readShort 'u' = none := by decide
  have hq : ¬ '\\' = '"' := by decide
  rw [parseBody.eq_def]
  simp only [if_neg hq, if_true, hu, hexUnit_control h]
  rw [if_neg (by omega), if_neg (by omega), Char.ofNat_toNat]

theorem parseBody_escapeChar : parseBody (escapeChar c ++ b) = (parseBody b).map (c :: ·) := by
  cases h : plain c with
  | true =>
    rw [escapeChar_of_plain h]
    exact parseBody_plain h
  | false =>
    rcases escapeChar_cases h with ⟨e, he, h⟩ | ⟨hlt, he⟩
    · rw [he]
      exact parseBody_short h
    · rw [he]
      exact parseBody_control hlt

theorem parseBody_escape (t : List Char) : parseBody (escape t ++ ['"']) = some t := by
  induction t with
  | nil => decide
  | cons c t ih => rw [escape_cons, append_assoc, parseBody_escapeChar, ih]; rfl

/-- A literal that is read to its end from the front of a written one is all of it. -/
theorem parseBody_front {v r : List Char} (hb : parseBody b = some v)
    (h : b <+: escape t ++ '"' :: r) : b = escape t ++ ['"'] ∧ v = t := by
  suffices h1 : b = escape t ++ ['"'] by
    refine ⟨h1, ?_⟩
    rw [h1, parseBody_escape] at hb
    exact (Option.some.inj hb).symm
  induction t generalizing b v with
  | nil =>
    rcases List.prefix_cons_iff.mp h with rfl | ⟨b, rfl, -⟩
    · cases hb
    · rw [parseBody.eq_def] at hb
      simp only [if_true] at hb
      split at hb
      · next h1 => rw [List.isEmpty_iff.mp h1]; rfl
      · cases hb
  | cons c t ih =>
    rw [escape_cons, List.append_assoc] at h
    -- An escape that is cut short is not read; what follows a whole one is read on its own.
    have hwhole : ∃ b', b = escapeChar c ++ b' ∧ b' <+: escape t ++ '"' :: r := by
      rcases List.prefix_or_prefix_of_prefix h (prefix_append _ _) with hshort | ⟨b', rfl⟩
      · refine ⟨[], ?_, List.nil_prefix⟩
        rw [append_nil]
        cases hp : plain c with
        | true =>
          rw [escapeChar_of_plain hp] at hshort ⊢
          rcases prefix_cons_iff.mp hshort with rfl | ⟨b, rfl, hnil⟩
          · cases hb
          · rw [prefix_nil.mp hnil]
        | false =>
          rcases escapeChar_cases hp with ⟨e, he, -⟩ | ⟨-, he⟩ <;> rw [he] at hshort ⊢ <;>
            simp only [prefix_cons_iff, prefix_nil] at hshort
          · obtain rfl | ⟨_, rfl, rfl | ⟨_, rfl, rfl⟩⟩ := hshort
            on_goal 3 => rfl
            all_goals cases hb
          · obtain rfl | ⟨_, rfl, rfl | ⟨_, rfl, rfl | ⟨_, rfl, rfl | ⟨_, rfl, rfl | ⟨_, rfl,
              rfl | ⟨_, rfl, rfl⟩⟩⟩⟩⟩⟩ := hshort
            on_goal 7 => rfl
            all_goals cases hb
      · exact ⟨b', rfl, (prefix_append_right_inj _).mp h⟩
    obtain ⟨b', rfl, hrest⟩ := hwhole
    rw [parseBody_escapeChar] at hb
    obtain ⟨v', hv', -⟩ := Option.map_eq_some_iff.mp hb
    rw [ih hv' hrest, escape_cons, append_assoc]

end JsonString
