import Xingkong.Model.RequestRules
import Mathlib.Data.List.TakeWhile

/-!
# The readers of request-rule texts

What each reader takes from a text, as an equation between texts: a reader succeeds exactly on
the texts it describes. With these a pattern is read off a text, or excluded, by comparing texts.
-/

namespace Xingkong

open List Bool

namespace Text

open JsonString

variable {s t r u l d : Text} {p : Char → Bool}

/-! ## Trimming -/

theorem head_dropWhile : ∀ c ∈ (s.dropWhile p).head?, p c = false := by
  intro c hc
  have := List.head?_dropWhile_not p s
  rw [hc] at this
  simpa using this

theorem trim_isPrefix : trim s <+: s.dropWhile isSpace := List.rdropWhile_prefix _ _

theorem isSpace_head_trim : ∀ c ∈ (trim s).head?, isSpace c = false := by
  intro c hc
  obtain ⟨u, hu⟩ := trim_isPrefix (s := s)
  refine head_dropWhile (s := s) c ?_
  rw [← hu]
  cases h : trim s with
  | nil =>
    rw [h] at hc
    cases hc
  | cons a v =>
    rw [h] at hc
    exact hc

theorem isSpace_getLast_trim : ∀ c ∈ (trim s).getLast?, isSpace c = false := by
  intro c hc
  have hne : trim s ≠ [] := by
    rintro hnil
    rw [hnil] at hc
    cases hc
  have h := rdropWhile_last_not isSpace (s.dropWhile isSpace) hne
  rw [List.getLast?_eq_some_getLast hne] at hc
  cases hc
  exact eq_false_iff.mpr h

theorem dropWhile_isSpace (h : ∀ c ∈ s.head?, isSpace c = false) : s.dropWhile isSpace = s := by
  cases s with
  | nil => rfl
  | cons c s => rw [dropWhile_cons, if_neg (by simp [h c rfl])]

theorem trim_eq_self_iff :
    trim s = s ↔ (∀ c ∈ s.head?, isSpace c = false) ∧ ∀ c ∈ s.getLast?, isSpace c = false := by
  constructor
  · intro h
    rw [← h]
    exact ⟨isSpace_head_trim, isSpace_getLast_trim⟩
  · rintro ⟨h, h1⟩
    rw [trim, dropWhile_isSpace h, rdropWhile_eq_self_iff]
    intro hne
    simp [h1 _ (List.getLast?_eq_some_getLast hne)]

theorem trim_trim : trim (trim s) = trim s :=
  trim_eq_self_iff.mpr ⟨isSpace_head_trim, isSpace_getLast_trim⟩

theorem exists_trim_append (h : ∀ c ∈ s.head?, isSpace c = false) :
    ∃ ws, s = trim s ++ ws ∧ ∀ c ∈ ws, isSpace c = true := by
  refine ⟨s.rtakeWhile isSpace, ?_, fun c hc => mem_rtakeWhile_imp hc⟩
  rw [trim, dropWhile_isSpace h, rdropWhile_append_rtakeWhile]

theorem trim_of_forall (h : ∀ c ∈ s, isSpace c = false) : trim s = s :=
  trim_eq_self_iff.mpr ⟨fun c hc => h c (mem_of_head? hc), fun c hc => h c (mem_of_getLast? hc)⟩

/-! ## Reading from the front -/

theorem expect_eq_some : expect l s = some r ↔ s = l ++ r := by
  unfold expect
  split
  · next h =>
    obtain ⟨u, rfl⟩ := List.isPrefixOf_iff_prefix.mp h
    simp
  · next h =>
    constructor
    · intro h1
      cases h1
    · rintro rfl
      exact absurd (List.isPrefixOf_iff_prefix.mpr (prefix_append l r)) h

@[simp] theorem expect_append (l : Text) : expect l (l ++ r) = some r := expect_eq_some.mpr rfl

theorem not_front {m : Text} (h : (l.isPrefixOf m || m.isPrefixOf l) = false) :
    ¬ l ++ s <+: m ++ r := by
  intro hp
  rw [or_eq_false_iff] at h
  rcases List.prefix_or_prefix_of_prefix ((prefix_append l s).trans hp)
    (prefix_append m r) with h' | h'
  · exact absurd (List.isPrefixOf_iff_prefix.mpr h') (by simp [h.1])
  · exact absurd (List.isPrefixOf_iff_prefix.mpr h') (by simp [h.2])

theorem expect_eq_none {m : Text} (h : (l.isPrefixOf m || m.isPrefixOf l) = false) :
    expect l (m ++ r) = none := by
  refine Option.eq_none_iff_forall_ne_some.mpr fun u hu => not_front h (s := u) (r := r) ?_
  exact expect_eq_some.mp hu ▸ prefix_rfl

theorem span_append (hs : ∀ c ∈ s, p c = true) (hr : ∀ c ∈ r.head?, p c = false) :
    (s ++ r).takeWhile p = s ∧ (s ++ r).dropWhile p = r := by
  have h : r.takeWhile p = [] ∧ r.dropWhile p = r := by
    cases r with
    | nil => exact ⟨rfl, rfl⟩
    | cons c r =>
      have hc : p c = false := hr c rfl
      exact ⟨by simp [hc], by simp [hc]⟩
  rw [takeWhile_append_of_pos hs, dropWhile_append_of_pos hs, h.1, h.2, append_nil]
  exact ⟨rfl, rfl⟩

theorem quotedName_eq_some {name : Text} :
    quotedName s = some (name, r) ↔ s = '"' :: (name ++ '"' :: r) ∧ name ≠ [] ∧ '"' ∉ name := by
  unfold quotedName
  constructor
  · intro h
    simp only [Option.bind_eq_bind, Option.bind_eq_some_iff, expect_eq_some] at h
    obtain ⟨u, rfl, v, hv, h⟩ := h
    split at h
    · cases h
    · next hne =>
      cases h
      refine ⟨?_, by simpa using hne, fun hmem => ?_⟩
      · have := List.takeWhile_append_dropWhile (p := (· ≠ '"')) (l := u)
        rw [hv] at this
        exact congrArg (List.cons '"') this.symm
      · simpa using List.mem_takeWhile_imp hmem
  · rintro ⟨rfl, hne, hq⟩
    have hall : ∀ c ∈ name, decide (c ≠ '"') = true := fun c hc => by
      simp only [ne_eq, decide_not, not_eq_true', decide_eq_false_iff_not]
      rintro rfl
      exact hq hc
    obtain ⟨h1, h2⟩ := span_append (r := '"' :: r) hall (by simp)
    have h : name.isEmpty = false := by simpa using hne
    rw
    [show ('"' :: (name ++ '"' :: r) : Text) = ['"'] ++ (name ++ '"' :: r) from rfl, expect_append,
      Option.bind_eq_bind, Option.bind_some, h1, h2,
      show ('"' :: r : Text) = ['"'] ++ r from rfl, expect_append]
    simp [h]

theorem number_eq_some :
    number s = some (d, r) ↔
      s = d ++ r ∧ d ≠ [] ∧ (∀ c ∈ d, isNumberChar c = true) ∧
        ∀ c ∈ r.head?, isNumberChar c = false := by
  unfold number
  constructor
  · intro h
    simp only at h
    split at h
    · cases h
    · next hne =>
      cases h
      exact ⟨List.takeWhile_append_dropWhile.symm, by simpa using hne,
        fun c hc => List.mem_takeWhile_imp hc, head_dropWhile⟩
  · rintro ⟨rfl, hne, hd, hr⟩
    obtain ⟨h1, h2⟩ := span_append hd hr
    have h : d.isEmpty = false := by simpa using hne
    simp [h1, h2, h]

theorem readCall_eq_some {name argument : Text} :
    readCall name s = some (argument, r) ↔
      s = callText name argument ++ r ∧ argument ≠ [] ∧ '"' ∉ argument := by
  unfold readCall
  simp only [Option.bind_eq_bind, Option.bind_eq_some_iff, expect_eq_some, Option.pure_def,
    Option.some.injEq, Prod.mk.injEq, Prod.exists, quotedName_eq_some]
  constructor
  · rintro ⟨u, rfl, v, rfl, n, w, ⟨rfl, hne, hq⟩, x, rfl, rfl, rfl⟩
    exact ⟨by simp [callText], hne, hq⟩
  · rintro ⟨rfl, hne, hq⟩
    exact ⟨_, by simp [callText], _, rfl, argument, _, ⟨rfl, hne, hq⟩, r, rfl, rfl, rfl⟩

/-! ## Numbers -/

def IsNumber (d : Text) : Prop := d ≠ [] ∧ ∀ c ∈ d, isNumberChar c = true

variable {c : Char} {b : Text}

theorem isNumberChar_of_isDigit (h : c.isDigit = true) : isNumberChar c = true := by
  simp [isNumberChar, h]

theorem isNumberChar_ne (h : isNumberChar c = true) :
    isSpace c = false ∧ c ∉ " \"()[&*|n".toList ∧ c ≠ '\x7b' := by
  have hsigns : ∀ c ∈ ['.', 'e', 'E', '+', '-'],
      isSpace c = false ∧ c ∉ " \"()[&*|n".toList ∧ c ≠ '\x7b' := by decide
  have h1 : ∀ n < 58, 48 ≤ n → isSpace (Char.ofNat n) = false ∧
      Char.ofNat n ∉ " \"()[&*|n".toList ∧ Char.ofNat n ≠ '\x7b' := by decide
  rw [isNumberChar, or_eq_true, decide_eq_true_eq] at h
  rcases h with h | h
  · rw [Char.isDigit, and_eq_true, decide_eq_true_eq, decide_eq_true_eq] at h
    have h2 : 48 ≤ c.toNat := h.1
    have h3 : c.toNat ≤ 57 := h.2
    rw [← Char.ofNat_toNat c]
    exact h1 c.toNat (by omega) h2
  · exact hsigns c h

theorem mem_dropSign (signs : List Char) (h : c ∈ s) : c ∈ signs ∨ c ∈ dropSign signs s := by
  cases s with
  | nil => cases h
  | cons e s =>
    rw [dropSign]
    split
    · next he =>
      rcases mem_cons.mp h with rfl | h
      · exact .inl he
      · exact .inr h
    · exact .inr h

theorem isNumberChar_of_isExponent (h : isExponent s = true) : ∀ c ∈ s, isNumberChar c = true := by
  intro c hc
  cases s with
  | nil => cases hc
  | cons e s =>
    simp only [isExponent, and_eq_true, or_eq_true, beq_iff_eq, all_eq_true] at h
    obtain ⟨⟨he, -⟩, h1⟩ := h
    rcases mem_cons.mp hc with rfl | hc
    · rcases he with rfl | rfl <;> decide
    · rcases mem_dropSign ['+', '-'] hc with h | hc
      · have hall : ∀ c ∈ ['+', '-'], isNumberChar c = true := by decide
        exact hall c h
      · exact isNumberChar_of_isDigit (h1 c hc)

theorem isNumber_of_isUnsigned (h : isUnsigned s = true) : IsNumber s := by
  have hsplit := takeWhile_append_dropWhile (p := Char.isDigit) (l := s)
  have hwhole : ∀ c ∈ s.takeWhile Char.isDigit, isNumberChar c = true := fun c hc =>
    isNumberChar_of_isDigit (mem_takeWhile_imp hc)
  unfold isUnsigned at h
  cases hrest : s.dropWhile Char.isDigit with
  | nil =>
    rw [hrest] at h hsplit
    rw [append_nil] at hsplit
    rw [← hsplit]
    exact ⟨by simpa using h, hwhole⟩
  | cons e rest =>
    rw [hrest] at h hsplit
    refine ⟨by rw [← hsplit]; simp, fun c hc => ?_⟩
    rw [← hsplit, mem_append] at hc
    rcases hc with hc | hc
    · exact hwhole c hc
    · simp only at h
      split at h
      · next hdot =>
        rw [and_eq_true] at h
        rcases mem_cons.mp hc with rfl | hc
        · rw [hdot]
          decide
        · rw [← takeWhile_append_dropWhile (p := Char.isDigit) (l := rest), mem_append] at hc
          rcases hc with hc | hc
          · exact isNumberChar_of_isDigit (mem_takeWhile_imp hc)
          · exact isNumberChar_of_isExponent h.2 c hc
      · rw [and_eq_true] at h
        exact isNumberChar_of_isExponent h.2 c hc

theorem isNumber_of_literal (h : isNumericLiteral s = true) : IsNumber s := by
  obtain ⟨hne, hall⟩ := isNumber_of_isUnsigned h
  refine ⟨?_, fun c hc => ?_⟩
  · rintro rfl
    exact hne rfl
  · rcases mem_dropSign ['-'] hc with h | hc
    · rw [mem_singleton.mp h]
      decide
    · exact hall c hc

theorem IsNumber.trim_eq (h : IsNumber d) : trim d = d :=
  trim_of_forall fun c hc => (isNumberChar_ne (h.2 c hc)).1

/-! ## Literals -/

theorem literalBody_quote : literalBody ('"' :: s) = some (['"'], s) := by
  rw [literalBody.eq_def]
  simp

theorem literalBody_backslash {e : Char} (he : isLineTerminator e = false) :
    literalBody ('\\' :: e :: s) = (literalBody s).map fun p => ('\\' :: e :: p.1, p.2) := by
  have hq : ¬ '\\' = '"' := by decide
  rw [literalBody.eq_def]
  simp only [if_neg hq, if_true, he, Bool.false_eq_true, if_false]

theorem literalBody_cons (hq : c ≠ '"') (hb : c ≠ '\\') :
    literalBody (c :: s) = (literalBody s).map fun p => (c :: p.1, p.2) := by
  rw [literalBody.eq_def]
  simp only [if_neg hq, if_neg hb]

/-- What is read of a literal is read again, whatever follows it. -/
theorem literalBody_again (h : literalBody s = some (b, r)) :
    s = b ++ r ∧ ∀ u, literalBody (b ++ u) = some (b, u) := by
  fun_induction literalBody s generalizing b with
  | case1 => cases h
  | case2 s =>
    cases h
    exact ⟨rfl, fun _ => literalBody_quote⟩
  | case3 hq | case4 e s h1 hq => cases h
  | case5 e s h1 hq ih =>
    obtain ⟨⟨b', r'⟩, hp, heq⟩ := Option.map_eq_some_iff.mp h
    cases heq
    obtain ⟨rfl, h2⟩ := ih hp
    refine ⟨rfl, fun u => ?_⟩
    rw [cons_append, cons_append, literalBody_backslash (eq_false_iff.mpr h1), h2]
    rfl
  | case6 c s hq hb ih =>
    obtain ⟨⟨b', r'⟩, hp, heq⟩ := Option.map_eq_some_iff.mp h
    cases heq
    obtain ⟨rfl, h2⟩ := ih hp
    refine ⟨rfl, fun u => ?_⟩
    rw [cons_append, literalBody_cons hq hb, h2]
    rfl

theorem literalBody_append (h : literalBody s = some (b, r)) (u : Text) :
    s = b ++ r ∧ literalBody (s ++ u) = some (b, r ++ u) := by
  obtain ⟨rfl, h1⟩ := literalBody_again h
  exact ⟨rfl, by rw [append_assoc, h1]⟩

theorem literalBody_self (h : literalBody s = some (b, r)) : literalBody b = some (b, []) := by
  simpa using (literalBody_again h).2 []

theorem not_isLineTerminator_of_mem_escapeLetters (h : c ∈ escapeLetters) :
    isLineTerminator c = false ∧ isSpace c = false := by
  have hall : ∀ c ∈ escapeLetters, isLineTerminator c = false ∧ isSpace c = false := by
    decide
  exact hall c h

theorem literalBody_escapeChar :
    literalBody (escapeChar c ++ s) =
      (literalBody s).map fun p => (escapeChar c ++ p.1, p.2) := by
  cases hp : plain c with
  | true =>
    have hc : ¬ (c = '"' ∨ c = '\\' ∨ c.toNat < 0x20) := by
      rw [← plain_eq_false_iff, hp]
      decide
    push Not at hc
    rw [escapeChar_of_plain hp]
    exact literalBody_cons hc.1 hc.2.1
  | false =>
    rcases escapeChar_cases hp with ⟨e, he, -⟩ | ⟨hlt, he⟩
    · have h1 : isLineTerminator e = false := by
        rcases mem_escapeChar (c := c) (x := e) (by rw [he]; simp) with
          ⟨-, h⟩ | ⟨-, hmem, -⟩
        · rw [hp] at h
          cases h
        · exact (not_isLineTerminator_of_mem_escapeLetters hmem).1
      rw [he]
      exact literalBody_backslash h1
    · have hhex : ∀ n < 16, hexDigit n ≠ '"' ∧ hexDigit n ≠ '\\' := by decide
      obtain ⟨h1, h2⟩ := hhex (c.toNat / 16) (by omega)
      obtain ⟨h3, h4⟩ := hhex (c.toNat % 16) (by omega)
      rw [he]
      show literalBody ('\\' :: 'u' :: '0' :: '0' :: _ :: _ :: s) = _
      rw [literalBody_backslash (by decide), literalBody_cons (by decide) (by decide),
        literalBody_cons (by decide) (by decide), literalBody_cons h1 h2, literalBody_cons h3 h4]
      simp only [Option.map_map]
      rfl

theorem literalBody_escape (t : Text) :
    literalBody (escape t ++ '"' :: r) = some (escape t ++ ['"'], r) := by
  induction t with
  | nil => exact literalBody_quote
  | cons c t ih =>
    rw [escape_cons, append_assoc, literalBody_escapeChar, ih]
    simp

theorem literalBody_front (h : literalBody s = some (b, r))
    (hs : s <+: escape t ++ '"' :: u) : b = escape t ++ ['"'] := by
  obtain ⟨v, hv⟩ := hs
  have h1 := (literalBody_append h v).2
  rw [hv, literalBody_escape] at h1
  cases h1
  rfl

/-! ## The edges of a written text -/

theorem isSpace_of_mem_escapeChar {x : Char} (h : isSpace c = false)
    (hx : x ∈ escapeChar c) : isSpace x = false := by
  rcases mem_escapeChar hx with ⟨rfl, -⟩ | ⟨-, h1, -⟩
  · exact h
  · exact (not_isLineTerminator_of_mem_escapeLetters h1).2

theorem escapeChar_ne_nil (c : Char) : escapeChar c ≠ [] := by
  unfold escapeChar
  split <;> exact cons_ne_nil _ _

theorem trim_escape (h : trim t = t) : trim (escape t) = escape t := by
  obtain ⟨h1, hlast⟩ := trim_eq_self_iff.mp h
  refine trim_eq_self_iff.mpr ⟨fun x hx => ?_, fun x hx => ?_⟩
  · cases t with
    | nil => cases hx
    | cons c t =>
      rw [escape_cons, List.head?_append_of_ne_nil _ (escapeChar_ne_nil c)] at hx
      exact isSpace_of_mem_escapeChar (h1 c rfl) (mem_of_head? hx)
  · rcases eq_nil_or_concat' t with rfl | ⟨t, c, rfl⟩
    · cases hx
    · have h : escape (t ++ [c]) =
          escape t ++ escapeChar c := by simp [escape]
      rw [h, List.getLast?_append_of_ne_nil _ (escapeChar_ne_nil c)] at hx
      exact isSpace_of_mem_escapeChar (hlast c (by simp)) (mem_of_getLast? hx)

end Text

/-! ## The readers of the model -/

open Text

variable {s r : Text} {modes : List MatchMode} {m : MatchMode}

theorem atEnd_eq_some {u : Unit} : atEnd s = some u ↔ s = [] := by
  cases s <;> simp [atEnd]

theorem timeFunc_names : ∀ f ∈ timeFuncs, ∀ g ∈ timeFuncs, f ≠ g →
    (f.name.isPrefixOf g.name || g.name.isPrefixOf f.name) = false := by
  decide

theorem mem_timeFuncs (f : TimeFunc) : f ∈ timeFuncs := by
  cases f <;> decide

theorem callText_append (name arg : Text) :
    callText name arg ++ r = name ++ ("(\"".toList ++ (arg ++ ("\")".toList ++ r))) := by
  simp [callText]

theorem readCall_none {name m : Text}
    (h : (name.isPrefixOf m || m.isPrefixOf name) = false) : readCall name (m ++ r) = none := by
  unfold readCall
  rw [expect_eq_none h]
  rfl

theorem readTimeCall_eq_some {f : TimeFunc} {tz : Text} :
    readTimeCall s = some (f, tz, r) ↔
      s = callText f.name tz ++ r ∧ tz ≠ [] ∧ '"' ∉ tz := by
  constructor
  · intro h
    obtain ⟨g, -, hg⟩ := List.exists_of_findSome?_eq_some h
    obtain ⟨⟨tz', r'⟩, h, heq⟩ := Option.map_eq_some_iff.mp hg
    cases heq
    exact readCall_eq_some.mp h
  · rintro ⟨rfl, hne, hq⟩
    have h : readCall f.name (callText f.name tz ++ r) = some (tz, r) :=
      readCall_eq_some.mpr ⟨rfl, hne, hq⟩
    have h1 : ∀ g, g ≠ f → readCall g.name (callText f.name tz ++ r) = none := fun g hg => by
      rw [callText_append]
      exact readCall_none (timeFunc_names g (mem_timeFuncs g) f (mem_timeFuncs f) hg)
    cases f <;>
      simp [readTimeCall, timeFuncs, List.findSome?, h, h1]

theorem readOperator_eq_some (h : readOperator modes s = some (m, r)) :
    m ∈ modes ∧ s = " ".toList ++ m.operator ++ " ".toList ++ r := by
  obtain ⟨m', hm', hg⟩ := List.exists_of_findSome?_eq_some h
  obtain ⟨r', h, heq⟩ := Option.map_eq_some_iff.mp hg
  cases heq
  exact ⟨hm', expect_eq_some.mp h⟩

def MatchMode.spaced (m : MatchMode) : Text := " ".toList ++ m.operator ++ " ".toList

def Distinct (modes : List MatchMode) : Prop :=
  ∀ a ∈ modes, ∀ b ∈ modes, a ≠ b → (a.spaced.isPrefixOf b.spaced || b.spaced.isPrefixOf a.spaced) =
    false

theorem readOperator_append (hdistinct : Distinct modes) (hm : m ∈ modes) : readOperator modes
    (m.spaced ++ r) = some (m, r) := by
  induction modes with
  | nil => cases hm
  | cons a modes ih =>
    unfold readOperator
    rw [List.findSome?_cons]
    by_cases ha : a = m
    · subst ha
      rw [show " ".toList ++ a.operator ++ " ".toList = a.spaced from rfl, expect_append]
      rfl
    · have h : expect (" ".toList ++ a.operator ++ " ".toList) (m.spaced ++ r) = none :=
        expect_eq_none (hdistinct a mem_cons_self m hm ha)
      rw [h]
      refine ih (fun b hb c hc => hdistinct b (mem_cons_of_mem _ hb) c (mem_cons_of_mem _ hc)) ?_
      rcases mem_cons.mp hm with rfl | hm
      · exact absurd rfl ha
      · exact hm

end Xingkong
