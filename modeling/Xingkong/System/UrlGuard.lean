import Mathlib
import Xingkong.Model.SSRF

/-!
# What the guard checks and what the dialer connects to

The transport takes the host and the port of a URL from `Hostname` and `Port` and reads an address
with its zone; the guard splits them with `net.SplitHostPort`, reads an address without a zone and
compares a name as it is spelled. What the guard has checked is compared here with what the dialer
uses: the two agree on the host, and disagree on a port that only `Port` sees, on addresses with a
zone and on the trailing dot of a name.
-/

namespace Xingkong

open List

open SSRFProtection (hostAndPort validateURL checkResolved validateHost)

/-! ## Splitting a host and its port -/

variable {c : Char} {l before after : List Char} {host hostport port urlStr : String}
  {p : SSRFProtection}
  {u : ParsedURL} {lib : NetLib}

theorem cutLast_of_not_mem (h : c ∉ l) : cutLast c l = none := by
  induction l with
  | nil => rfl
  | cons d l ih =>
    have hd : d ≠ c := fun hd => h (hd ▸ mem_cons_self)
    rw [cutLast, ih fun hmem => h (mem_cons_of_mem _ hmem)]
    exact if_neg hd

theorem not_mem_of_cutLast (h : cutLast c l = none) : c ∉ l := by
  induction l with
  | nil => exact not_mem_nil
  | cons d l ih =>
    rw [cutLast] at h
    cases hl : cutLast c l with
    | some parts =>
      rw [hl] at h
      cases h
    | none =>
      rw [hl] at h
      have hd : d ≠ c := fun hd => absurd ((if_pos hd).symm.trans h) (by simp)
      intro hmem
      rcases mem_cons.1 hmem with heq | hmem
      · exact hd heq.symm
      · exact ih hl hmem

theorem cutLast_append (h : c ∉ after) :
    cutLast c (before ++ c :: after) = some (before, after) := by
  induction before with
  | nil =>
    rw [nil_append, cutLast, cutLast_of_not_mem h]
    exact if_pos rfl
  | cons d before ih => rw [cons_append, cutLast, ih]

theorem cutLast_eq_some :
    cutLast c l = some (before, after) ↔ l = before ++ c :: after ∧ c ∉ after := by
  constructor
  · intro h
    induction l generalizing before with
    | nil => cases h
    | cons d l ih =>
      rw [cutLast] at h
      cases hl : cutLast c l with
      | some parts =>
        rw [hl] at h
        obtain ⟨rfl, rfl⟩ := Prod.mk.inj (Option.some.inj h)
        obtain ⟨heq, hafter⟩ := ih hl
        exact ⟨by rw [heq, cons_append], hafter⟩
      | none =>
        rw [hl] at h
        have hnot := not_mem_of_cutLast hl
        by_cases hd : d = c
        · obtain ⟨rfl, rfl⟩ := Prod.mk.inj (Option.some.inj ((if_pos hd).symm.trans h))
          exact ⟨by rw [hd]; rfl, hnot⟩
        · exact absurd ((if_neg hd).symm.trans h) (by simp)
  · rintro ⟨rfl, hafter⟩
    exact cutLast_append hafter

theorem splitHostPort_eq_some (h : splitHostPort hostport = some (host, port)) :
    ':' ∉ port.toList ∧ ']' ∉ port.toList ∧
      (hostport.toList = '[' :: host.toList ++ ']' :: ':' :: port.toList ∨
        hostport.toList = host.toList ++ ':' :: port.toList ∧ '[' ∉ hostport.toList) := by
  unfold splitHostPort at h
  simp only [bind, Option.bind] at h
  cases hcut : cutLast ':' hostport.toList with
  | none =>
    rw [hcut] at h
    cases h
  | some parts =>
    obtain ⟨before, after⟩ := parts
    obtain ⟨heq, hcolon⟩ := cutLast_eq_some.1 hcut
    rw [hcut] at h
    dsimp only at h
    split at h
    next rest hrest =>
      cases hclose : cutAt [']'] rest with
      | none =>
        rw [hclose] at h
        cases h
      | some ends =>
        obtain ⟨inside, tail⟩ := ends
        rw [hclose] at h
        dsimp only at h
        split at h
        next => cases h
        next htail =>
          rw [not_not] at htail
          split at h
          next => cases h
          next hbrackets =>
            obtain ⟨rfl, rfl⟩ := Prod.mk.inj (Option.some.inj h)
            rw [String.toList_ofList, String.toList_ofList]
            refine ⟨hcolon, fun hmem => hbrackets (.inr ?_), .inl ?_⟩
            · rw [htail]
              exact mem_cons_of_mem _ hmem
            · rw [hrest, cutAt_eq hclose, htail]
              simp
    next =>
      split at h
      next => cases h
      next =>
        split at h
        next => cases h
        next hbrackets =>
          obtain ⟨rfl, rfl⟩ := Prod.mk.inj (Option.some.inj h)
          rw [String.toList_ofList, String.toList_ofList]
          refine ⟨hcolon, fun hmem => hbrackets (.inr ?_), .inr ⟨heq, fun hmem => ?_⟩⟩
          · rw [heq]
            exact mem_append_right _ (mem_cons_of_mem _ hmem)
          · exact hbrackets (.inl hmem)

/-! ## What the dialer uses -/

/-- What follows the last colon, outside brackets, is a number or nothing. -/
def portNumeric (host : String) : Bool :=
  match cutLast ':' host.toList with
  | some (_, after) => decide (']' ∈ after) || after.all Char.isDigit
  | none => true

/-- What is documented of the parsers, the resolver and letter case: a URL is only parsed if the
port of its host is a number, an address resolves to itself, and a lower case letter stays as it
is. -/
structure NetLib.Documented (lib : NetLib) : Prop where
  port : ∀ urlStr u, lib.parseURL urlStr = .ok u → portNumeric u.host = true
  literal : ∀ s ip zone, lib.parseAddr s = some (ip, zone) → lib.lookupIP s = .ok [ip]
  lower : ∀ c, lib.toLower (lib.toLower c) = lib.toLower c
  ascii : ∀ c, c.toNat < 128 → lib.toLower c = c.toLower

/-- The port that is dialed: the one of the URL, or that of its scheme. -/
def ParsedURL.dialPort (u : ParsedURL) : Int :=
  if u.port = "" then (if u.scheme = "https" then 443 else 80) else digitsValue u.port.toList

/-- A name without regard to letter case and one trailing dot. -/
def dnsName (lib : NetLib) (s : String) : String := trimSuffix (lib.lower s) "."

/-- What a fetch of the URL connects to is allowed: its port; its address, with or without a zone;
or its name, however it is spelled. -/
structure UrlSafe (lib : NetLib) (p : SSRFProtection) (u : ParsedURL) : Prop where
  port : p.isAllowedPort u.dialPort = true
  literal : ∀ ip zone, lib.parseAddr u.hostname = some (ip, zone) →
    isPrivateIP (some ip) = false ∧ isIPListed lib ip p.ipList = p.ipFilterMode
  name : lib.parseAddr u.hostname = none → ∀ spelling,
    dnsName lib spelling = dnsName lib u.hostname → p.isDomainAllowed lib spelling = true

section Dialed

theorem urlHostPort_of_split (h : splitHostPort hostport = some (host, port))
    (hdigits : port.toList.all Char.isDigit) :
    urlHostPort hostport = (host.toList, port.toList) := by
  obtain ⟨hcolon, -, h1 | ⟨hplain, hopen⟩⟩ := splitHostPort_eq_some h
  · have hcut : cutLast ':' hostport.toList =
        some ('[' :: (host.toList ++ [']']), port.toList) := by
      refine cutLast_eq_some.2 ⟨?_, hcolon⟩
      rw [h1]
      simp
    have hlt : ('[' :: (host.toList ++ [']'])).getLast? = some ']' :=
      List.getLast?_concat (l := '[' :: host.toList)
    simp [urlHostPort, hcut, hdigits, hlt]
  · have hcut := cutLast_eq_some.2 ⟨hplain, hcolon⟩
    have h : host.toList.head? ≠ some '[' := by
      intro h
      apply hopen
      rw [hplain]
      exact mem_append_left _ (mem_of_head? h)
    simp [urlHostPort, hcut, hdigits, h]

theorem splitHostPort_digits (h : splitHostPort hostport = some (host, port))
    (hnum : portNumeric hostport = true) :
    port.toList.all Char.isDigit := by
  obtain ⟨h1, h2, h3⟩ := splitHostPort_eq_some h
  obtain ⟨before, h⟩ : ∃ before, hostport.toList = before ++ ':' :: port.toList := by
    rcases h3 with h4 | ⟨h3, -⟩
    · exact ⟨'[' :: host.toList ++ [']'], by rw [h4]; simp⟩
    · exact ⟨host.toList, h3⟩
  rw [portNumeric, cutLast_eq_some.2 ⟨h, h1⟩] at hnum
  simpa [h2] using hnum

theorem decimal_digits {s : String} (hne : s ≠ "") (hdigits : s.toList.all Char.isDigit) :
    decimal s = some (digitsValue s.toList : Int) := by
  have hnil : s.toList ≠ [] := by
    intro h
    exact hne (String.toList_inj.1 (h.trans String.toList_empty.symm))
  unfold decimal
  dsimp only
  split
  next ds heq =>
    rw [heq] at hdigits
    simp at hdigits
  next ds heq =>
    rw [heq] at hdigits
    simp at hdigits
  next => rw [if_pos ⟨hnil, hdigits⟩]

/-- The guard looks at the host that is dialed, and at the port that is dialed unless only `Port`
sees one. -/
theorem hostAndPort_dialed (hlib : lib.Documented) (hparse : lib.parseURL urlStr = .ok u)
    {port : Int} (hport : atoi (hostAndPort u).2 = some port) :
    (hostAndPort u).1 = u.hostname ∧
      ((splitHostPort u.host = none → u.port = "") → port = u.dialPort) := by
  unfold hostAndPort at hport ⊢
  cases hsplit : splitHostPort u.host with
  | none =>
    rw [hsplit] at hport
    refine ⟨rfl, fun h => ?_⟩
    unfold ParsedURL.dialPort
    rw [if_pos (h rfl)]
    have h443 : atoi "443" = some 443 := by decide +kernel
    have h80 : atoi "80" = some 80 := by decide +kernel
    dsimp only at hport
    split at hport
    next hs =>
      rw [if_pos hs]
      exact Option.some.inj (hport.symm.trans h443)
    next hs =>
      rw [if_neg hs]
      exact Option.some.inj (hport.symm.trans h80)
  | some parts =>
    obtain ⟨host, portStr⟩ := parts
    rw [hsplit] at hport
    dsimp only at hport ⊢
    have hdigits := splitHostPort_digits hsplit (hlib.port urlStr u hparse)
    have h := urlHostPort_of_split hsplit hdigits
    have h1 : u.hostname = host := by
      rw [ParsedURL.hostname, h, String.ofList_toList]
    have hportStr : u.port = portStr := by
      rw [ParsedURL.port, h, String.ofList_toList]
    refine ⟨h1.symm, fun _ => ?_⟩
    obtain ⟨h, -⟩ := Option.filter_eq_some_iff.1 hport
    have hne : portStr ≠ "" := by
      rintro rfl
      have h1 : decimal "" = none := by decide
      rw [h1] at h
      cases h
    rw [decimal_digits hne hdigits] at h
    rw [ParsedURL.dialPort, hportStr, if_neg hne]
    exact (Option.some.inj h).symm

end Dialed

/-! ## Spellings of a name -/

theorem lower_append (a b : String) : lib.lower (a ++ b) = lib.lower a ++ lib.lower b := by
  unfold NetLib.lower
  rw [String.toList_append, map_append, String.ofList_append]

theorem endsWith_iff {s suf : String} : endsWith s suf = true ↔ ∃ t, s = t ++ suf := by
  rw [endsWith, isSuffixOf_iff_suffix]
  constructor
  · rintro ⟨t, ht⟩
    refine ⟨String.ofList t, String.toList_inj.1 ?_⟩
    rw [String.toList_append, String.toList_ofList, ht]
  · rintro ⟨t, rfl⟩
    exact ⟨t.toList, String.toList_append.symm⟩

theorem trimSuffix_append (t suf : String) : trimSuffix (t ++ suf) suf = t := by
  rw [trimSuffix, if_pos (endsWith_iff.2 ⟨t, rfl⟩)]
  apply String.toList_inj.1
  rw [String.toList_ofList, String.toList_append, String.length_append, Nat.add_sub_cancel,
    ← String.length_toList, take_left]

theorem lower_eq_dnsName (s : String) : lib.lower s = dnsName lib s ++ "." ∨
    lib.lower s = dnsName lib s ∧ endsWith (dnsName lib s) "." = false := by
  unfold dnsName
  cases hdot : endsWith (lib.lower s) "." with
  | true =>
    obtain ⟨t, ht⟩ := endsWith_iff.1 hdot
    rw [ht, trimSuffix_append]
    exact .inl rfl
  | false =>
    rw [trimSuffix, hdot]
    exact .inr ⟨rfl, hdot⟩

section

variable (hlib : lib.Documented)
include hlib

theorem lower_lower (s : String) : lib.lower (lib.lower s) = lib.lower s := by
  unfold NetLib.lower
  rw [String.toList_ofList, map_map]
  congr 1
  apply map_congr_left
  intro c _
  exact hlib.lower c

theorem lower_dot : lib.lower "." = "." := by
  have h : lib.toLower '.' = '.' := hlib.ascii '.' (by decide)
  show String.ofList [lib.toLower '.'] = "."
  rw [h]

theorem lower_dnsName (s : String) : lib.lower (dnsName lib s) = dnsName lib s := by
  have h := lower_lower hlib s
  rcases lower_eq_dnsName s with hdot | ⟨hplain, -⟩
  · rw [hdot, lower_append, lower_dot hlib] at h
    have h := congrArg String.toList h
    rw [String.toList_append, String.toList_append] at h
    exact String.toList_inj.1 (append_inj_left' h rfl)
  · rw [hplain] at h
    exact h

theorem isDomainListed_lower (s : String) (list : List String) :
    isDomainListed lib (lib.lower s) list = isDomainListed lib s list := by
  unfold isDomainListed
  rw [lower_lower hlib]

theorem dnsName_dot (s : String) : dnsName lib (dnsName lib s ++ ".") = dnsName lib s := by
  have h : lib.lower (dnsName lib s ++ ".") = dnsName lib s ++ "." := by
    rw [lower_append, lower_dnsName hlib, lower_dot hlib]
  rw [dnsName, h, trimSuffix_append]

/-- A name that is allowed as it is spelled is allowed in all its spellings exactly when the list
does not tell apart the two of them that end with a dot and without. -/
theorem isDomainAllowed_spellings (h : p.isDomainAllowed lib host = true) :
    (∀ spelling, dnsName lib spelling = dnsName lib host → p.isDomainAllowed lib spelling = true) ↔
      (endsWith (dnsName lib host) "." = false →
        isDomainListed lib (dnsName lib host) p.domainList =
          isDomainListed lib (dnsName lib host ++ ".") p.domainList) := by
  have h1 : ∀ s, p.isDomainAllowed lib s = true ↔
      isDomainListed lib s p.domainList = p.domainFilterMode := by
    intro s
    unfold SSRFProtection.isDomainAllowed
    cases isDomainListed lib s p.domainList <;> cases p.domainFilterMode <;> decide
  simp only [h1] at h ⊢
  constructor
  · intro hall h1
    have hplain : dnsName lib (dnsName lib host) = dnsName lib host := by
      rw [dnsName, lower_dnsName hlib, trimSuffix, h1, if_neg Bool.false_ne_true]
    rw [hall _ hplain, hall _ (dnsName_dot hlib host)]
  · intro h1 spelling hname
    rw [← isDomainListed_lower hlib] at h ⊢
    rcases lower_eq_dnsName spelling with hs | ⟨hs, hend⟩
    · rcases lower_eq_dnsName host with hh | ⟨hh, hend⟩
      · rw [hs, hname, ← hh, h]
      · rw [hs, hname, ← h1 hend, ← hh, h]
    · rw [hname] at hend
      rcases lower_eq_dnsName host with hh | ⟨hh, -⟩
      · rw [hs, hname, h1 hend, ← hh, h]
      · rw [hs, hname, ← hh, h]

end

/-! ## The guard -/

section Guard

theorem validateURL_ok (h : lib.parseURL urlStr = .ok u)
    (hok : p.validateURL lib urlStr = .ok ()) :
    ∃ port, atoi (hostAndPort u).2 = some port ∧ p.isAllowedPort port = true ∧
      p.validateHost lib (hostAndPort u).1 = .ok () := by
  unfold validateURL at hok
  rw [h] at hok
  dsimp only at hok
  split at hok
  next => cases hok
  next =>
    cases h : atoi (hostAndPort u).2 with
    | none =>
      rw [h] at hok
      cases hok
    | some port =>
      rw [h] at hok
      dsimp only at hok
      split at hok
      next => cases hok
      next h => exact ⟨port, rfl, by simpa using h, hok⟩

theorem isIPAccessAllowed_iff (hp : p.allowPrivateIp = false) {ip : IP} :
    p.isIPAccessAllowed lib ip = true ↔
      isPrivateIP (some ip) = false ∧ isIPListed lib ip p.ipList = p.ipFilterMode := by
  unfold SSRFProtection.isIPAccessAllowed
  rw [hp]
  cases isPrivateIP (some ip) <;> cases isIPListed lib ip p.ipList <;> cases p.ipFilterMode <;>
    decide

theorem checkResolved_ok {ips : List IP}
    (hok : p.checkResolved lib host ips = .ok ()) :
    ∀ ip ∈ ips, p.isIPAccessAllowed lib ip = true := by
  induction ips with
  | nil => exact nofun
  | cons ip ips ih =>
    unfold checkResolved at hok
    split at hok
    next =>
      split at hok
      next => cases hok
      next => split at hok <;> cases hok
    next h =>
      intro ip' hip'
      rcases mem_cons.1 hip' with rfl | hip'
      · simpa using h
      · exact ih hok ip' hip'

/-- What an accepted host has passed: an address without a zone its check, any other host that of
names and, if names are resolved, that of the addresses. -/
theorem validateHost_ok (hok : p.validateHost lib host = .ok ()) :
    (∀ ip, lib.parseIP host = some ip → p.isIPAccessAllowed lib ip = true) ∧
      (lib.parseIP host = none → p.isDomainAllowed lib host = true ∧
        (p.applyIPFilterForDomain = true → ∃ ips, lib.lookupIP host = .ok ips ∧
          ∀ ip ∈ ips, p.isIPAccessAllowed lib ip = true)) := by
  unfold validateHost at hok
  cases hip : lib.parseIP host with
  | some ip =>
    rw [hip] at hok
    dsimp only at hok
    refine ⟨fun ip' hip' => ?_, fun h => absurd h (by simp)⟩
    cases hip'
    split at hok
    next =>
      split at hok
      next => cases hok
      next => split at hok <;> cases hok
    next h => simpa using h
  | none =>
    rw [hip] at hok
    dsimp only at hok
    refine ⟨fun ip hip' => absurd hip' (by simp), fun _ => ?_⟩
    split at hok
    next => split at hok <;> cases hok
    next h =>
      refine ⟨by simpa using h, fun h => ?_⟩
      rw [h] at hok
      cases h : lib.lookupIP host with
      | error err =>
        rw [h] at hok
        cases hok
      | ok ips =>
        rw [h] at hok
        exact ⟨ips, rfl, checkResolved_ok hok⟩

/-- **What an accepted URL leaves open.** With private addresses refused, what is dialed for an
accepted URL is allowed exactly when a port that only `Port` sees is allowed, an address with a
zone is one the address checks would pass if names are not resolved, and the domain list does not
tell the name with a trailing dot from the one without. -/
theorem url_guard_iff (lib : NetLib) (hlib : lib.Documented) (p : SSRFProtection)
    (hp : p.allowPrivateIp = false) (urlStr : String) (u : ParsedURL)
    (hparse : lib.parseURL urlStr = .ok u) (hok : p.validateURL lib urlStr = .ok ()) :
    UrlSafe lib p u ↔
      (splitHostPort u.host = none → u.port ≠ "" → p.isAllowedPort u.dialPort = true) ∧
      (p.applyIPFilterForDomain = false → ∀ ip zone,
        lib.parseAddr u.hostname = some (ip, zone) → zone ≠ "" →
        isPrivateIP (some ip) = false ∧ isIPListed lib ip p.ipList = p.ipFilterMode) ∧
      (lib.parseAddr u.hostname = none → endsWith (dnsName lib u.hostname) "." = false →
        isDomainListed lib (dnsName lib u.hostname) p.domainList =
          isDomainListed lib (dnsName lib u.hostname ++ ".") p.domainList) := by
  obtain ⟨port, h, hallowed, h1⟩ := validateURL_ok hparse hok
  obtain ⟨h2, hsame⟩ := hostAndPort_dialed hlib hparse h
  rw [h2] at h1
  obtain ⟨haddress, hname⟩ := validateHost_ok h1
  have hnameok : lib.parseAddr u.hostname = none → p.isDomainAllowed lib u.hostname = true := by
    intro hnone
    exact (hname (by rw [NetLib.parseIP, hnone])).1
  constructor
  · intro h
    refine ⟨fun _ _ => h.port, fun _ ip zone haddr _ => h.literal ip zone haddr, ?_⟩
    intro hnone
    exact (isDomainAllowed_spellings hlib (hnameok hnone)).1 (h.name hnone)
  · rintro ⟨h, hzone, hdot⟩
    refine ⟨?_, fun ip zone haddr => ?_, fun hnone => ?_⟩
    · by_cases h1 : splitHostPort u.host = none ∧ u.port ≠ ""
      · exact h h1.1 h1.2
      · rw [← hsame fun h => by_contra fun hne => h1 ⟨h, hne⟩]
        exact hallowed
    · by_cases hz : zone = ""
      · have hip : lib.parseIP u.hostname = some ip := by
          rw [NetLib.parseIP, haddr]
          exact if_pos hz
        exact (isIPAccessAllowed_iff hp).1 (haddress ip hip)
      · cases h : p.applyIPFilterForDomain with
        | false => exact hzone h ip zone haddr hz
        | true =>
          have hip : lib.parseIP u.hostname = none := by
            rw [NetLib.parseIP, haddr]
            exact if_neg hz
          obtain ⟨ips, h1, hips⟩ := (hname hip).2 h
          rw [hlib.literal _ _ _ haddr] at h1
          cases h1
          exact (isIPAccessAllowed_iff hp).1 (hips ip mem_cons_self)
    · exact (isDomainAllowed_spellings hlib (hnameok hnone)).2 (hdot hnone)

end Guard

section Fixtures

def fixtureAddr : String → Option (IP × String)
  | "8.8.8.8" => some (.ofIPv4 8 8 8 8, "")
  | "fe80::1%eth0" => some (⟨0xfe800000000000000000000000000001⟩, "eth0")
  | "2001:4860::8888" => some (⟨0x20014860000000000000000000008888⟩, "")
  | _ => none

def fixtureNet : NetLib where
  parseURL
    | "http://8.8.8.8:8080/" => .ok ⟨"http", "8.8.8.8:8080"⟩
    | "http://[fe80::1%25eth0]/" => .ok ⟨"http", "[fe80::1%eth0]"⟩
    | "http://2001:4860::8888:8080/" => .ok ⟨"http", "2001:4860::8888:8080"⟩
    | "http://evil.com./" => .ok ⟨"http", "evil.com."⟩
    | _ => .error "invalid URL"
  parseAddr := fixtureAddr
  parseCIDR _ := none
  lookupIP s :=
    match fixtureAddr s with
    | some (ip, _) => .ok [ip]
    | none => .error "no such host"
  ipString _ := ""
  toLower := Char.toLower

theorem fixtureNet_documented : fixtureNet.Documented where
  port urlStr u h := by
    unfold fixtureNet at h
    dsimp only at h
    split at h <;> cases h <;> decide +kernel
  literal s ip zone h := by
    show (match fixtureAddr s with
      | some (ip, _) => Except.ok [ip]
      | none => .error "no such host") = .ok [ip]
    rw [show fixtureAddr s = some (ip, zone) from h]
  lower _ := Char.toLower_toLower_eq_toLower _
  ascii _ _ := rfl

def fixtureGuard (ports : List Int) : SSRFProtection :=
  ⟨false, false, ["evil.com"], false, [], ports, false⟩

/-- A URL whose address and port are both checked. -/
theorem url_guard_address : UrlSafe fixtureNet (fixtureGuard [8080]) ⟨"http", "8.8.8.8:8080"⟩ := by
  refine (url_guard_iff fixtureNet fixtureNet_documented (fixtureGuard [8080]) rfl
    "http://8.8.8.8:8080/" ⟨"http", "8.8.8.8:8080"⟩ rfl (by decide +kernel)).2 ⟨?_, ?_, ?_⟩
  · intro hnone
    exact absurd hnone (by decide +kernel)
  · intro _ ip zone h h1
    have h2 : fixtureNet.parseAddr (ParsedURL.hostname ⟨"http", "8.8.8.8:8080"⟩) =
        some (.ofIPv4 8 8 8 8, "") := by decide +kernel
    rw [h2] at h
    cases h
    exact absurd rfl h1
  · intro hnone
    exact absurd hnone (by decide +kernel)

/-- Three accepted URLs: a link-local address with a zone, a port that is not allowed, and a
blocked domain with a trailing dot. -/
theorem url_guard_passed :
    ((fixtureGuard []).validateURL fixtureNet "http://[fe80::1%25eth0]/" = .ok () ∧
      (fixtureNet.parseAddr (ParsedURL.hostname ⟨"http", "[fe80::1%eth0]"⟩)).map
        (fun a => isPrivateIP (some a.1)) = some true) ∧
    ((fixtureGuard [80, 443]).validateURL fixtureNet "http://2001:4860::8888:8080/" = .ok () ∧
      (ParsedURL.dialPort ⟨"http", "2001:4860::8888:8080"⟩) = 8080 ∧
      (fixtureGuard [80, 443]).isAllowedPort 8080 = false) ∧
    ((fixtureGuard []).validateURL fixtureNet "http://evil.com./" = .ok () ∧
      dnsName fixtureNet "evil.com" =
        dnsName fixtureNet (ParsedURL.hostname ⟨"http", "evil.com."⟩) ∧
      (fixtureGuard []).isDomainAllowed fixtureNet "evil.com" = false) := by
  decide +kernel

end Fixtures

end Xingkong
