import Xingkong.Spec.RuleTexts

/-!
# What the parser of conditions accepts

`Reads e c`: the text `e` is one of the patterns of the parser, with the parts of `c` in it.
The parser tries its patterns one after another; they exclude each other, so it accepts exactly
the texts `Reads` describes (`tryParseRequestCondition_eq_some`).
-/

namespace Xingkong

open Text JsonString List Option
open FieldSource (param header)

def IsName (name : Text) : Prop := name ≠ [] ∧ '"' ∉ name

def hasText (source : FieldSource) (path lit : Text) : Text :=
  "has(".toList ++ (callText source.name path ++ (", ".toList ++ (lit ++ ")".toList)))

def rangeText (f : TimeFunc) (tz a b : Text) : Text :=
  callText f.name tz ++ (" >= ".toList ++ (a ++ (" || ".toList ++
    (callText f.name tz ++ (" < ".toList ++ b)))))

def FieldSource.existsTest : FieldSource → Text
  | header => " != \"\"".toList
  | param => " != nil".toList

/-- The text `e` is read as the condition `c`. -/
inductive Reads (composite : JsonComposite) : Text → RequestCondition → Prop
  | range {f : TimeFunc} {tz a b : Text} : IsName tz → IsNumber a → IsNumber b →
      Reads composite (rangeText f tz a b) (.time f tz .range [] a b)
  | rangeParens {f : TimeFunc} {tz a b : Text} : IsName tz → IsNumber a → IsNumber b →
      Reads composite ("(".toList ++ (rangeText f tz a b ++ ")".toList)) (.time f tz .range [] a b)
  | timeComparison {f : TimeFunc} {tz v : Text} {m : MatchMode} : IsName tz → IsNumber v →
      m ∈ [MatchMode.eq, .gte, .lt] →
      Reads composite (callText f.name tz ++ (m.spaced ++ v)) (.time f tz m v [] [])
  | exists {source : FieldSource} {path : Text} : IsName path →
      Reads composite (callText source.name path ++ source.existsTest)
        (.field source path .exists [])
  | headerContains {path b v : Text} : IsName path → literalBody b = some (b, []) →
      parseBody b = some v →
      Reads composite (hasText .header path ('"' :: b)) (.field .header path .contains v)
  | paramContains {path b v : Text} : IsName path → literalBody b = some (b, []) →
      parseBody b = some v →
      Reads composite (callText param.name path ++
        (" != nil && ".toList ++ hasText .param path ('"' :: b))) (.field .param path .contains v)
  | paramComparison {path v : Text} {m : MatchMode} : IsName path → IsNumber v →
      m ∈ [MatchMode.gt, .gte, .lt, .lte] →
      Reads composite (callText param.name path ++ (" != nil && ".toList ++
        (callText param.name path ++ (m.spaced ++ v)))) (.field .param path m v)
  | equals {source : FieldSource} {path raw v : Text} : IsName path → raw ≠ [] →
      (∀ c ∈ raw, isLineTerminator c = false) → parseExprLiteral composite raw = some v →
      Reads composite (callText source.name path ++ (" == ".toList ++ raw))
        (.field source path .eq v)

variable {composite : JsonComposite} {e r : Text} {c : RequestCondition} {source : FieldSource}

/-! ## Every accepted text is described -/

theorem matchTimeRange_eq_some {opening closing : Text}
    (h : matchTimeRange opening closing e = some c) :
    ∃ f tz a b, c = .time f tz .range [] a b ∧ IsName tz ∧ IsNumber a ∧ IsNumber b ∧
      e = opening ++ (rangeText f tz a b ++ closing) := by
  unfold matchTimeRange at h
  simp only [Option.bind_eq_bind, Option.bind_eq_some_iff, expect_eq_some, Option.pure_def,
    Option.some.injEq, Prod.exists, readTimeCall_eq_some, number_eq_some, atEnd_eq_some] at h
  obtain ⟨s0, rfl, f, tz, s1, ⟨rfl, htz⟩, s2, rfl, a, s3, ⟨rfl, hne, ha, -⟩, s4, rfl, s5, rfl,
    s6, rfl,
    b, s7, ⟨rfl, hne', hb, -⟩, s8, rfl, -, rfl, rfl⟩ := h
  exact ⟨f, tz, a, b, rfl, htz, ⟨hne, ha⟩, ⟨hne', hb⟩, by simp [rangeText]⟩

theorem reads_of_tryParseTimeCondition (h : tryParseTimeCondition e = some c) :
    Reads composite e c := by
  unfold tryParseTimeCondition at h
  rw [or_eq_some_iff, or_eq_some_iff] at h
  rcases h with h | ⟨-, h | ⟨-, h⟩⟩
  · obtain ⟨f, tz, a, b, rfl, htz, ha, hb, rfl⟩ := matchTimeRange_eq_some h
    rw [nil_append, append_nil]
    exact .range htz ha hb
  · obtain ⟨f, tz, a, b, rfl, htz, ha, hb, rfl⟩ := matchTimeRange_eq_some h
    exact .rangeParens htz ha hb
  · unfold matchTimeComparison at h
    simp only [Option.bind_eq_bind, Option.bind_eq_some_iff, Option.pure_def, Option.some.injEq,
      Prod.exists, readTimeCall_eq_some, number_eq_some, atEnd_eq_some] at h
    obtain ⟨f, tz, s1, ⟨rfl, htz⟩, m, s2, hop, v, s3, ⟨rfl, hne, hv, -⟩, -, rfl, rfl⟩ := h
    obtain ⟨hm, rfl⟩ := readOperator_eq_some hop
    rw [append_nil]
    exact .timeComparison htz ⟨hne, hv⟩ hm

theorem reads_of_matchExists (source : FieldSource)
    (h : matchExists source source.existsTest e = some c) : Reads composite e c := by
  unfold matchExists at h
  simp only [Option.bind_eq_bind, Option.bind_eq_some_iff, expect_eq_some, Option.pure_def,
    Option.some.injEq, Prod.exists, readCall_eq_some, atEnd_eq_some] at h
  obtain ⟨path, s1, ⟨rfl, hpath⟩, s2, rfl, -, rfl, rfl⟩ := h
  rw [append_nil]
  exact .exists hpath

variable {path b raw v tz m test lit : Text} {f : TimeFunc}

theorem readHas_eq_some (h : readHas source e = some (path, lit)) :
    IsName path ∧ ∃ b, lit = '"' :: b ∧ literalBody b = some (b, []) ∧
      e = hasText source path lit := by
  unfold readHas at h
  simp only [Option.bind_eq_bind, Option.bind_eq_some_iff, expect_eq_some, Option.pure_def,
    Option.some.injEq, Prod.exists, readCall_eq_some, atEnd_eq_some, literal, Prod.mk.injEq] at h
  obtain ⟨s1, rfl, p, s2, ⟨rfl, hpath⟩, s3, rfl, l, s4, ⟨s5, rfl, b, s6, hb, rfl, rfl⟩, s7, rfl,
    -, rfl,
    rfl, rfl⟩ := h
  refine ⟨hpath, b, rfl, literalBody_self hb, ?_⟩
  rw [(literalBody_append hb []).1]
  simp [hasText]

theorem reads_of_containsCondition
    (h : (containsCondition source path ('"' :: b)).map some = .ok (some c)) :
    ∃ v, parseBody b = some v ∧ c = .field source path .contains v := by
  unfold containsCondition at h
  cases hb : parseBody b with
  | none =>
    rw [drop_one, tail_cons, hb] at h
    cases h
  | some v =>
    rw [drop_one, tail_cons, hb] at h
    cases h
    exact ⟨v, rfl, rfl⟩

theorem matchParamContains_eq_some (h : matchParamContains e = some (path, lit)) :
    IsName path ∧ ∃ b, lit = '"' :: b ∧ literalBody b = some (b, []) ∧
      e = callText param.name path ++
        (" != nil && ".toList ++ hasText .param path lit) := by
  unfold matchParamContains at h
  simp only [Option.bind_eq_bind, Option.bind_eq_some_iff, expect_eq_some, Prod.exists,
    readCall_eq_some] at h
  obtain ⟨p, s1, ⟨rfl, -⟩, s2, rfl, q, l, hhas, h⟩ := h
  split at h
  · next heq =>
    cases h
    subst heq
    obtain ⟨hpath, b, hlit, hb, rfl⟩ := readHas_eq_some hhas
    exact ⟨hpath, b, hlit, hb, rfl⟩
  · cases h

theorem reads_of_matchParamComparison (h : matchParamComparison e = some c) :
    Reads composite e c := by
  unfold matchParamComparison at h
  simp only [Option.bind_eq_bind, Option.bind_eq_some_iff, expect_eq_some, Prod.exists,
    readCall_eq_some, number_eq_some, atEnd_eq_some] at h
  obtain ⟨p, s1, ⟨rfl, hpath⟩, s2, rfl, q, s3, ⟨rfl, -⟩, m, s4, hop, v, s5, ⟨rfl, hne, hv, -⟩, -,
    rfl, h⟩ := h
  split at h
  · next heq =>
    cases h
    subst heq
    obtain ⟨hm, rfl⟩ := readOperator_eq_some hop
    rw [List.append_nil]
    exact .paramComparison hpath ⟨hne, hv⟩ hm
  · cases h

theorem matchEquals_eq_some (h : matchEquals e = some (source, path, raw)) :
    IsName path ∧ raw ≠ [] ∧ (∀ c ∈ raw, isLineTerminator c = false) ∧
      e = callText source.name path ++ (" == ".toList ++ raw) := by
  obtain ⟨s', -, h1⟩ := List.exists_of_findSome?_eq_some h
  simp only [Option.bind_eq_bind, Option.bind_eq_some_iff, expect_eq_some, Prod.exists,
    readCall_eq_some] at h1
  obtain ⟨p, s1, ⟨rfl, hpath⟩, s2, rfl, hraw⟩ := h1
  split at hraw
  · cases hraw
  · next hok =>
    cases hraw
    push Not at hok
    refine ⟨hpath, by simpa using hok.1, fun c hc => ?_, rfl⟩
    by_contra h
    exact hok.2 (List.any_eq_true.mpr ⟨c, hc, Bool.eq_true_of_not_eq_false h⟩)

theorem reads_of_tryParseRequestCondition
    (h : tryParseRequestCondition composite e = .ok (some c)) : Reads composite e c := by
  unfold tryParseRequestCondition at h
  split at h
  · next h1 =>
    cases h
    exact reads_of_tryParseTimeCondition h1
  split at h
  · next h1 =>
    cases h
    exact reads_of_matchExists .header h1
  split at h
  · next h1 =>
    cases h
    exact reads_of_matchExists .param h1
  split at h
  · next path lit hhas =>
    obtain ⟨hpath, b, rfl, hb, rfl⟩ := readHas_eq_some hhas
    obtain ⟨v, hv, rfl⟩ := reads_of_containsCondition h
    exact .headerContains hpath hb hv
  split at h
  · next path lit hhas =>
    obtain ⟨hpath, b, rfl, hb, rfl⟩ := matchParamContains_eq_some hhas
    obtain ⟨v, hv, rfl⟩ := reads_of_containsCondition h
    exact .paramContains hpath hb hv
  split at h
  · next h1 =>
    cases h
    exact reads_of_matchParamComparison h1
  split at h
  · next source path raw h1 =>
    obtain ⟨hpath, hne, h2, rfl⟩ := matchEquals_eq_some h1
    obtain ⟨v, hv, rfl⟩ := Option.map_eq_some_iff.mp (Except.ok.inj h)
    exact .equals hpath hne h2 hv
  · cases h

/-! ## Every described text is accepted -/

theorem readTimeCall_none
    (h : ∀ f ∈ timeFuncs, (f.name.isPrefixOf m || m.isPrefixOf f.name) = false) :
    readTimeCall (m ++ r) = none := by
  rw [readTimeCall, List.findSome?_eq_none_iff]
  intro f hf
  rw [readCall_none (h f hf)]
  rfl

theorem tryParseTimeCondition_field (hm : m ∈ ["header".toList, "param".toList, "has(".toList]) :
    tryParseTimeCondition (m ++ r) = none := by
  have h : ∀ m ∈ ["header".toList, "param".toList, "has(".toList],
      (∀ f ∈ timeFuncs, (f.name.isPrefixOf m || m.isPrefixOf f.name) = false) ∧
        ("(".toList.isPrefixOf m || m.isPrefixOf "(".toList) = false := by decide
  have hnil : expect [] (m ++ r) = some (m ++ r) := expect_append []
  simp only [tryParseTimeCondition, matchTimeRange, matchTimeComparison, hnil,
    readTimeCall_none (h m hm).1, expect_eq_none (h m hm).2, bind_eq_bind, bind_none,
    bind_some, or_none]

theorem matchExists_none (h : readCall source.name e = none) :
    matchExists source test e = none := by
  simp [matchExists, h]

section Fields

variable {path : Text} (hpath : IsName path)
include hpath

theorem readCall_callText (name : Text) : readCall name (callText name path ++ r) = some
    (path, r) :=
  readCall_eq_some.mpr ⟨rfl, hpath⟩

theorem matchExists_append (source : FieldSource) (test : Text) :
    matchExists source test (callText source.name path ++ (test ++ r)) =
      (atEnd r).map fun _ => .field source path .exists [] := by
  simp only [matchExists, readCall_callText hpath, expect_append, Option.bind_eq_bind,
    Option.bind_some]
  cases r <;> rfl

theorem matchExists_other (h : (test.isPrefixOf m || m.isPrefixOf test) = false) :
    matchExists source test (callText source.name path ++ (m ++ r)) = none := by
  simp only [matchExists, readCall_callText hpath, expect_eq_none h, Option.bind_eq_bind,
    Option.bind_some, Option.bind_none]

theorem readHas_hasText {b : Text} (hb : literalBody b = some (b, [])) :
    readHas source (hasText source path ('"' :: b)) = some (path, '"' :: b) := by
  have hlit : literal ('"' :: b ++ ")".toList) = some ('"' :: b, ")".toList) := by
    have h := (literalBody_append hb ")".toList).2
    rw [literal, show ('"' :: b ++ ")".toList : Text) = ['"'] ++ (b ++ ")".toList) from rfl,
      expect_append, Option.bind_eq_bind, Option.bind_some, h]
    rfl
  have hend : expect ")".toList ")".toList = some [] := by decide
  simp only [readHas, hasText, expect_append, readCall_callText hpath, hlit, hend,
    Option.bind_eq_bind, Option.bind_some]
  rfl

end Fields

theorem containsCondition_ok (hv : parseBody b = some v) :
    containsCondition source path ('"' :: b) = .ok (.field source path .contains v) := by
  rw [containsCondition, drop_one, tail_cons, hv]

theorem number_append (hv : IsNumber v) (hr : ∀ c ∈ r.head?, isNumberChar c = false) :
    number (v ++ r) = some (v, r) :=
  number_eq_some.mpr ⟨rfl, hv.1, hv.2, hr⟩

theorem number_self (hv : IsNumber v) : number v = some (v, []) := by
  have := number_append hv (r := []) (by simp)
  rwa [append_nil] at this

theorem readTimeCall_callText (htz : IsName tz) :
    readTimeCall (callText f.name tz ++ r) = some (f, tz, r) :=
  readTimeCall_eq_some.mpr ⟨rfl, htz⟩

theorem matchTimeRange_rangeText (opening closing : Text) {a : Text} (htz : IsName tz)
    (ha : IsNumber a) (hb : IsNumber b) (hclosing : ∀ c ∈ closing.head?, isNumberChar c = false) :
    matchTimeRange opening closing (opening ++ (rangeText f tz a b ++ closing)) =
      some (.time f tz .range [] a b) := by
  have hend : expect closing closing = some [] := by
    have := expect_append closing (r := [])
    rwa [append_nil] at this
  have h : ∀ u : Text, ∀ c ∈ (" || ".toList ++ u).head?, isNumberChar c = false := by
    rintro u c hc
    cases hc
    decide
  have ha' : ∀ u, number (a ++ (" || ".toList ++ u)) = some (a, " || ".toList ++ u) := fun u =>
    number_append ha (h u)
  simp only [matchTimeRange, rangeText, append_assoc, expect_append, readTimeCall_callText htz,
    ha', number_append hb hclosing, hend, bind_eq_bind, bind_some]
  rfl

theorem tryParseTimeCondition_comparison {m : MatchMode} (htz : IsName tz) (hv : IsNumber v)
    (hm : m ∈ [MatchMode.eq, .gte, .lt]) :
    tryParseTimeCondition (callText f.name tz ++ (m.spaced ++ v)) = some
    (.time f tz m v [] []) := by
  have hparen : expect "(".toList (callText f.name tz ++ (m.spaced ++ v)) = none := by
    have h : ∀ f ∈ timeFuncs,
        ("(".toList.isPrefixOf f.name || f.name.isPrefixOf "(".toList) = false := by decide
    rw [callText_append]
    exact expect_eq_none (h f (mem_timeFuncs f))
  have hrange : matchTimeRange [] [] (callText f.name tz ++ (m.spaced ++ v)) = none := by
    -- A range begins like a comparison with `>=` but does not end there.
    have hnil : ∀ u, expect [] u = some u := fun u => expect_append []
    have hor : expect " || ".toList [] = none := by decide
    simp only [mem_cons, not_mem_nil, or_false] at hm
    have h : ∀ u, expect " >= ".toList (MatchMode.gte.spaced ++ u) = some u := fun u =>
      expect_append " >= ".toList
    have h1 : ∀ u, expect " >= ".toList (MatchMode.eq.spaced ++ u) = none ∧
        expect " >= ".toList (MatchMode.lt.spaced ++ u) = none := fun u =>
      ⟨expect_eq_none (by decide), expect_eq_none (by decide)⟩
    rcases hm with rfl | rfl | rfl <;>
      simp only [matchTimeRange, hnil, readTimeCall_callText htz, h, h1, number_self hv, hor,
        bind_eq_bind, bind_some, bind_none]
  have h : Distinct [MatchMode.eq, .gte, .lt] := by
    unfold Distinct
    decide
  have hend : atEnd [] = some () := rfl
  have h1 : matchTimeComparison (callText f.name tz ++ (m.spaced ++ v)) =
      some (.time f tz m v [] []) := by
    simp only [matchTimeComparison, readTimeCall_callText htz, readOperator_append h hm,
      number_self hv, hend, Option.bind_eq_bind, Option.bind_some, Option.pure_def]
  rw [tryParseTimeCondition, hrange, h1, matchTimeRange, hparen]
  rfl

theorem call_others {other : FieldSource} (hne : source ≠ other) (path r : Text) :
    tryParseTimeCondition (callText source.name path ++ r) = none ∧
      readCall other.name (callText source.name path ++ r) = none ∧
      expect "has(".toList (callText source.name path ++ r) = none := by
  rw [callText_append]
  cases source <;> cases other <;> first
    | exact absurd rfl hne
    | exact ⟨tryParseTimeCondition_field (by decide), readCall_none (by decide),
        expect_eq_none (by decide)⟩

theorem headerNotParam : header ≠ .param := by decide

/-- The text of a parameter that is tested for being there first. -/
abbrev guarded (path test : Text) : Text :=
  callText param.name path ++ (" != nil && ".toList ++ test)

theorem readHas_none (h : expect "has(".toList e = none) : readHas source e = none := by
  simp only [readHas, h, bind_eq_bind, bind_none]

theorem matchParamContains_none (h : readCall param.name e = none) :
    matchParamContains e = none := by
  simp [matchParamContains, h]

theorem matchParamComparison_none (h : readCall param.name e = none) :
    matchParamComparison e = none := by
  simp only [matchParamComparison, h, bind_eq_bind, bind_none]

section

variable (hpath : IsName path)

include hpath

theorem matchExists_guarded : matchExists .param " != nil".toList
      (guarded path r) = none := by
  exact matchExists_append hpath .param _

theorem tryParse_exists :
    tryParseRequestCondition composite (callText source.name path ++ source.existsTest) =
      .ok (some (.field source path .exists [])) := by
  have hown : matchExists source source.existsTest
      (callText source.name path ++ source.existsTest) = some (.field source path .exists []) := by
    have := matchExists_append hpath source source.existsTest (r := [])
    rwa [append_nil] at this
  have h : tryParseTimeCondition (callText source.name path ++ source.existsTest) = none := by
    cases source <;> rfl
  rw [tryParseRequestCondition, h]
  cases source with
  | header => erw [hown]
  | param =>
    have h : readCall header.name (callText param.name path ++ param.existsTest) = none := rfl
    rw [matchExists_none h]
    erw [hown]

theorem tryParse_headerContains (hb : literalBody b = some (b, []))
    (hv : parseBody b = some v) :
    tryParseRequestCondition composite (hasText .header path ('"' :: b)) =
      .ok (some (.field .header path .contains v)) := by
  have h : tryParseTimeCondition (hasText .header path ('"' :: b)) = none :=
    tryParseTimeCondition_field (by decide)
  have h1 : readCall header.name (hasText .header path ('"' :: b)) = none :=
    readCall_none (by decide)
  have h2 : readCall param.name (hasText .header path ('"' :: b)) = none :=
    readCall_none (by decide)
  rw [tryParseRequestCondition, h, matchExists_none h1, matchExists_none h2,
    readHas_hasText hpath hb]
  show (containsCondition .header path ('"' :: b)).map some = _
  rw [containsCondition_ok hv]
  rfl

theorem tryParse_paramContains (hb : literalBody b = some (b, []))
    (hv : parseBody b = some v) :
    tryParseRequestCondition composite (guarded path (hasText .param path ('"' :: b))) =
      .ok (some (.field .param path .contains v)) := by
  obtain ⟨h, h1, hhas⟩ := call_others headerNotParam.symm path
    (" != nil && ".toList ++ hasText .param path ('"' :: b))
  have hown : matchParamContains (guarded path (hasText .param path ('"' :: b))) =
      some (path, '"' :: b) := by
    simp only [matchParamContains, readCall_callText hpath, expect_append, readHas_hasText hpath hb,
      Option.bind_eq_bind, Option.bind_some, if_true]
  rw [tryParseRequestCondition, h, matchExists_none h1, matchExists_guarded hpath,
    readHas_none hhas, hown]
  show (containsCondition .param path ('"' :: b)).map some = _
  rw [containsCondition_ok hv]
  rfl

theorem tryParse_paramComparison {m : MatchMode} (hv : IsNumber v)
    (hm : m ∈ [MatchMode.gt, .gte, .lt, .lte]) :
    tryParseRequestCondition composite (guarded path
        (callText param.name path ++ (m.spaced ++ v))) =
      .ok (some (.field .param path m v)) := by
  obtain ⟨htime, hheader, hhas⟩ := call_others headerNotParam.symm path
    (" != nil && ".toList ++ (callText param.name path ++ (m.spaced ++ v)))
  obtain ⟨-, -, hhas'⟩ := call_others headerNotParam.symm path (m.spaced ++ v)
  have hcontains : matchParamContains (guarded path (callText param.name path ++ (m.spaced ++ v))) =
      none := by
    simp only [matchParamContains, readCall_callText hpath, expect_append, readHas_none hhas',
      bind_eq_bind, bind_some, bind_none]
  have h : Distinct [MatchMode.gt, .gte, .lt, .lte] := by
    unfold Distinct
    decide
  have hend : atEnd [] = some () := rfl
  have hown : matchParamComparison (guarded path (callText param.name path ++ (m.spaced ++ v))) =
      some (.field .param path m v) := by
    simp only [matchParamComparison, readCall_callText hpath, expect_append,
      readOperator_append h hm, number_self hv, hend, bind_eq_bind,
      bind_some, if_true]
  rw [tryParseRequestCondition, htime, matchExists_none hheader, matchExists_guarded hpath,
    readHas_none hhas, hcontains, hown]

end

theorem matchEquals_callText (source : FieldSource) (hpath : IsName path) (hne : raw ≠ [])
    (h1 : ∀ c ∈ raw, isLineTerminator c = false) :
    matchEquals (callText source.name path ++ (" == ".toList ++ raw)) =
      some (source, path, raw) := by
  have hok : ¬ (raw.isEmpty = true ∨ raw.any isLineTerminator = true) := by
    rintro (h | h)
    · exact hne (isEmpty_iff.mp h)
    · obtain ⟨c, hc, hc'⟩ := any_eq_true.mp h
      rw [h1 c hc] at hc'
      cases hc'
  cases source with
  | param =>
    simp only [matchEquals, List.findSome?_cons, readCall_callText hpath, expect_append,
      bind_eq_bind, bind_some, if_neg hok]
  | header =>
    obtain ⟨-, h, -⟩ := call_others headerNotParam path (" == ".toList ++ raw)
    simp only [matchEquals, List.findSome?_cons, h, readCall_callText hpath, expect_append,
      bind_eq_bind, bind_some, bind_none, if_neg hok]

theorem tryParse_equals (hpath : IsName path) (hne : raw ≠ [])
    (h : ∀ c ∈ raw, isLineTerminator c = false) (hv : parseExprLiteral composite raw = some v) :
    tryParseRequestCondition composite (callText source.name path ++ (" == ".toList ++ raw)) =
      .ok (some (.field source path .eq v)) := by
  have hown := matchEquals_callText source hpath hne h
  cases source with
  | header =>
    obtain ⟨htime, h, hhas⟩ := call_others headerNotParam path (" == ".toList ++ raw)
    rw [tryParseRequestCondition, htime, matchExists_other hpath (by decide),
      matchExists_none h, readHas_none hhas, matchParamContains_none h,
      matchParamComparison_none h, hown]
    show Except.ok ((parseExprLiteral composite raw).map _) = _
    rw [hv]
    rfl
  | param =>
    obtain ⟨htime, hheader, hhas⟩ := call_others headerNotParam.symm path (" == ".toList ++ raw)
    have h : ∀ u : Text, expect " != nil && ".toList (" == ".toList ++ u) = none := fun u =>
      expect_eq_none (by decide)
    have h1 : matchParamContains (callText param.name path ++ (" == ".toList ++ raw)) = none := by
      simp only [matchParamContains, readCall_callText hpath, h, bind_eq_bind, bind_some, bind_none]
    have h2 : matchParamComparison (callText param.name path ++
        (" == ".toList ++ raw)) = none := by
      simp only [matchParamComparison, readCall_callText hpath, h, bind_eq_bind,
        bind_some, bind_none]
    rw [tryParseRequestCondition, htime, matchExists_none hheader,
      matchExists_other hpath (by decide), readHas_none hhas, h1, h2, hown]
    show Except.ok ((parseExprLiteral composite raw).map _) = _
    rw [hv]
    rfl

/-- **The parser accepts exactly the texts of its patterns.** -/
theorem tryParseRequestCondition_eq_some :
    tryParseRequestCondition composite e = .ok (some c) ↔ Reads composite e c := by
  refine ⟨reads_of_tryParseRequestCondition, fun h => ?_⟩
  cases h with
  | @range f tz a b htz ha hb =>
    have hrange := matchTimeRange_rangeText (f := f) [] [] htz ha hb (by simp)
    rw [nil_append, append_nil] at hrange
    rw [tryParseRequestCondition, tryParseTimeCondition, hrange]
    rfl
  | @rangeParens f tz a b htz ha hb =>
    have hrange := matchTimeRange_rangeText (f := f) "(".toList ")".toList htz ha hb (by
      rintro c hc
      cases hc
      decide)
    have h : ∀ u : Text, matchTimeRange [] [] ("(".toList ++ u) = none := fun u => by
      have hnil : expect [] ("(".toList ++ u) = some ("(".toList ++ u) := expect_append []
      have h1 : readTimeCall ("(".toList ++ u) = none := readTimeCall_none (by decide)
      simp only [matchTimeRange, hnil, h1, bind_eq_bind, bind_some, bind_none]
    rw [tryParseRequestCondition, tryParseTimeCondition, h, hrange]
    rfl
  | timeComparison htz hv hm =>
    rw [tryParseRequestCondition, tryParseTimeCondition_comparison htz hv hm]
  | «exists» hpath => exact tryParse_exists hpath
  | headerContains hpath hb hv => exact tryParse_headerContains hpath hb hv
  | paramContains hpath hb hv => exact tryParse_paramContains hpath hb hv
  | paramComparison hpath hv hm => exact tryParse_paramComparison hpath hv hm
  | equals hpath hne h hv => exact tryParse_equals hpath hne h hv

end Xingkong
