import Xingkong.Model.Json

/-!
# The guard against server-side request forgery

`ValidateURL` decides whether a URL that a user gives may be fetched: by its port, by a list of
addresses if its host is an address, and by a list of domains if it is a name. Go's parsers of URLs
and addresses and its resolver are given by a `NetLib`; the two ways to split a host and its port,
`net.SplitHostPort` and the one of `net/url`, are written out because they do not agree on all
texts.
-/

namespace Xingkong

/-! ## Addresses -/

/-- `net.IP` in its 16-byte form. -/
structure IP where
  bits : BitVec 128
deriving DecidableEq

namespace IP

/-- `IP.To4`: the last four bytes of an IPv4-mapped address. -/
def to4 (ip : IP) : Option (BitVec 32) :=
  if ip.bits.extractLsb' 32 96 = 0xffff#96 then some (ip.bits.extractLsb' 0 32) else none

def byte (ip : IP) (i : Nat) : BitVec 8 := ip.bits.extractLsb' (120 - 8 * i) 8

/-- `net.IPv4`. -/
def ofIPv4 (a b c d : BitVec 8) : IP := ⟨0xffff#96 ++ (a ++ b ++ c ++ d)⟩

def ofTop (top : BitVec 32) : IP := ⟨top ++ 0#96⟩

def unspecified : IP := ⟨0⟩

def loopback : IP := ⟨1⟩

variable (ip : IP)

def isUnspecified : Bool := ip == ofIPv4 0 0 0 0 || ip == unspecified

def isLoopback : Bool :=
  match ip.to4 with
  | some _ => ip.byte 12 == 127
  | none => ip == loopback

def isLinkLocalUnicast : Bool :=
  match ip.to4 with
  | some _ => ip.byte 12 == 169 && ip.byte 13 == 254
  | none => ip.byte 0 == 0xfe && (ip.byte 1 &&& 0xc0) == 0x80

def isLinkLocalMulticast : Bool :=
  match ip.to4 with
  | some _ => ip.byte 12 == 224 && ip.byte 13 == 0 && ip.byte 14 == 0
  | none => ip.byte 0 == 0xff && (ip.byte 1 &&& 0x0f) == 0x02

def isInterfaceLocalMulticast : Bool := ip.byte 0 == 0xff && (ip.byte 1 &&& 0x0f) == 0x01

def isPrivate : Bool :=
  match ip.to4 with
  | some _ =>
    ip.byte 12 == 10 || (ip.byte 12 == 172 && (ip.byte 13 &&& 0xf0) == 16) ||
      (ip.byte 12 == 192 && ip.byte 13 == 168)
  | none => (ip.byte 0 &&& 0xfe) == 0xfc

end IP

/-- `net.IPNet`: a mask of `ones` bits over four or sixteen bytes. -/
structure IPNet where
  ip : IP
  mask4 : Bool
  ones : Nat

def sameNetwork {w : Nat} (a b : BitVec w) (ones : Nat) : Bool :=
  a >>> (w - ones) == b >>> (w - ones)

/-- `IPNet.Contains`. The last four bytes of a mask count if the network is an IPv4-mapped one. -/
def IPNet.contains (n : IPNet) (ip : IP) : Bool :=
  match n.ip.to4, ip.to4 with
  | some nn, some x => sameNetwork nn x (if n.mask4 then n.ones else n.ones - 96)
  | none, none => !n.mask4 && sameNetwork n.ip.bits ip.bits n.ones
  | _, _ => false

def privateIPv4Nets : List IPNet :=
  [⟨.ofIPv4 0 0 0 0, true, 8⟩, ⟨.ofIPv4 10 0 0 0, true, 8⟩, ⟨.ofIPv4 100 64 0 0, true, 10⟩,
    ⟨.ofIPv4 127 0 0 0, true, 8⟩, ⟨.ofIPv4 169 254 0 0, true, 16⟩, ⟨.ofIPv4 172 16 0 0, true, 12⟩,
    ⟨.ofIPv4 192 0 0 0, true, 24⟩, ⟨.ofIPv4 192 0 2 0, true, 24⟩, ⟨.ofIPv4 192 168 0 0, true, 16⟩,
    ⟨.ofIPv4 198 18 0 0, true, 15⟩, ⟨.ofIPv4 198 51 100 0, true, 24⟩,
    ⟨.ofIPv4 203 0 113 0, true, 24⟩, ⟨.ofIPv4 224 0 0 0, true, 4⟩, ⟨.ofIPv4 240 0 0 0, true, 4⟩,
    ⟨.ofIPv4 255 255 255 255, true, 32⟩]

/-- `::/128`, `::1/128`, `::ffff:0:0/96`, `64:ff9b::/96`, `100::/64`, `2001::/23`,
`2001:db8::/32`, `fc00::/7`, `fe80::/10` and `ff00::/8`. -/
def privateIPv6Nets : List IPNet :=
  [⟨.unspecified, false, 128⟩, ⟨.loopback, false, 128⟩, ⟨.ofIPv4 0 0 0 0, false, 96⟩,
    ⟨.ofTop 0x0064ff9b, false, 96⟩, ⟨.ofTop 0x01000000, false, 64⟩, ⟨.ofTop 0x20010000, false, 23⟩,
    ⟨.ofTop 0x20010db8, false, 32⟩, ⟨.ofTop 0xfc000000, false, 7⟩, ⟨.ofTop 0xfe800000, false, 10⟩,
    ⟨.ofTop 0xff000000, false, 8⟩]

def isPrivateIP (ip : Option IP) : Bool :=
  match ip with
  | none => true
  | some ip =>
    if ip.isUnspecified then true
    else if ip.isLoopback || ip.isLinkLocalUnicast || ip.isLinkLocalMulticast then true
    else if ip.isInterfaceLocalMulticast then true
    else
      match ip.to4 with
      | some _ => privateIPv4Nets.any (·.contains ip)
      | none => privateIPv6Nets.any (·.contains ip) || ip.isPrivate

/-! ## Hosts and ports -/

/-- The text before and after the last place where `c` stands. -/
def cutLast (c : Char) : List Char → Option (List Char × List Char)
  | [] => none
  | d :: l =>
    match cutLast c l with
    | some (before, after) => some (d :: before, after)
    | none => if d = c then some ([], l) else none

/-- `net.SplitHostPort`; `none` is its error. -/
def splitHostPort (hostport : String) : Option (String × String) := do
  let l := hostport.toList
  let (before, port) ← cutLast ':' l
  match l with
  | '[' :: rest =>
    -- the first `]` must stand right before the last `:`
    let (host, after) ← cutAt [']'] rest
    if after ≠ ':' :: port then none
    else if '[' ∈ rest ∨ ']' ∈ after then none
    else some (String.ofList host, String.ofList port)
  | _ =>
    if ':' ∈ before then none
    else if '[' ∈ l ∨ ']' ∈ l then none
    else some (String.ofList before, String.ofList port)

/-- The URL as far as it is read: `u.Scheme` and `u.Host`. -/
structure ParsedURL where
  scheme : String
  host : String

/-- `splitHostPort` of `net/url`: what `Hostname` and `Port` return. -/
def urlHostPort (hostPort : String) : List Char × List Char :=
  let (host, port) :=
    match cutLast ':' hostPort.toList with
    | some (before, after) => if after.all Char.isDigit then (before, after)
      else (hostPort.toList, [])
    | none => (hostPort.toList, [])
  if host.head? = some '[' ∧ host.getLast? = some ']' then (host.tail.dropLast, port)
  else (host, port)

def ParsedURL.hostname (u : ParsedURL) : String := String.ofList (urlHostPort u.host).1

def ParsedURL.port (u : ParsedURL) : String := String.ofList (urlHostPort u.host).2

/-! ## The guard -/

/-- Go's parsers and resolver. `parseAddr` is `netip.ParseAddr`: an address and its zone; `toLower`
is `unicode.ToLower`. -/
structure NetLib where
  parseURL : String → Except String ParsedURL
  parseAddr : String → Option (IP × String)
  parseCIDR : String → Option IPNet
  lookupIP : String → Except String (List IP)
  ipString : IP → String
  toLower : Char → Char

/-- `net.ParseIP`: the forms of `netip.ParseAddr` but no zone. -/
def NetLib.parseIP (lib : NetLib) (s : String) : Option IP :=
  match lib.parseAddr s with
  | some (ip, zone) => if zone = "" then some ip else none
  | none => none

structure SSRFProtection where
  allowPrivateIp : Bool
  domainFilterMode : Bool
  domainList : List String
  ipFilterMode : Bool
  ipList : List String
  allowedPorts : List Int
  applyIPFilterForDomain : Bool

variable (lib : NetLib)

/-- `strings.ToLower`. -/
def NetLib.lower (s : String) : String := String.ofList (s.toList.map lib.toLower)

def isIpInCIDRList (ip : IP) (cidrList : List String) : Bool :=
  cidrList.any fun cidr =>
    match lib.parseCIDR cidr with
    | some network => network.contains ip
    | none => lib.parseIP cidr == some ip

def isIPListed (ip : IP) (list : List String) : Bool :=
  if list.length = 0 then false else isIpInCIDRList lib ip list

def isDomainListed (domain : String) (list : List String) : Bool :=
  if list.length = 0 then false
  else
    let domain := lib.lower domain
    list.any fun item =>
      let item := lib.lower (trimSpace item)
      if item = "" then false
      else if domain = item then true
      else if startsWith item "*." then
        let suffix := trimPrefix item "*."
        endsWith domain ("." ++ suffix) || domain == suffix
      else false

namespace SSRFProtection

variable (p : SSRFProtection)

def isAllowedPort (port : Int) : Bool :=
  if p.allowedPorts.length = 0 then true else p.allowedPorts.any (port == ·)

def isDomainAllowed (domain : String) : Bool :=
  let listed := isDomainListed lib domain p.domainList
  if p.domainFilterMode then listed else !listed

def isIPAccessAllowed (ip : IP) : Bool :=
  if isPrivateIP (some ip) && !p.allowPrivateIp then false
  else
    let listed := isIPListed lib ip p.ipList
    if p.ipFilterMode then listed else !listed

/-- The checks of the addresses a name resolves to, in order. -/
def checkResolved (host : String) : List IP → Except String Unit
  | [] => .ok ()
  | ip :: ips =>
    if !p.isIPAccessAllowed lib ip then
      if isPrivateIP (some ip) && !p.allowPrivateIp then
        .error s!"private IP address not allowed: {host} resolves to {lib.ipString ip}"
      else if p.ipFilterMode then
        .error s!"ip not in whitelist: {host} resolves to {lib.ipString ip}"
      else .error s!"ip in blacklist: {host} resolves to {lib.ipString ip}"
    else checkResolved host ips

def hostAndPort (u : ParsedURL) : String × String :=
  match splitHostPort u.host with
  | some (host, portStr) => (host, portStr)
  | none => (u.hostname, if u.scheme = "https" then "443" else "80")

def validateHost (host : String) : Except String Unit :=
  match lib.parseIP host with
  | some ip =>
    if !p.isIPAccessAllowed lib ip then
      if isPrivateIP (some ip) then
        .error s!"private IP address not allowed: {lib.ipString ip}"
      else if p.ipFilterMode then .error s!"ip not in whitelist: {lib.ipString ip}"
      else .error s!"ip in blacklist: {lib.ipString ip}"
    else .ok ()
  | none =>
    if !p.isDomainAllowed lib host then
      if p.domainFilterMode then .error s!"domain not in whitelist: {host}"
      else .error s!"domain in blacklist: {host}"
    else if !p.applyIPFilterForDomain then .ok ()
    else
      match lib.lookupIP host with
      | .error err => .error s!"DNS resolution failed for {host}: {err}"
      | .ok ips => p.checkResolved lib host ips

def validateURL (urlStr : String) : Except String Unit :=
  match lib.parseURL urlStr with
  | .error err => .error s!"invalid URL format: {err}"
  | .ok u =>
    if u.scheme ≠ "http" ∧ u.scheme ≠ "https" then
      .error s!"unsupported protocol: {u.scheme} (only http/https allowed)"
    else
      let (host, portStr) := hostAndPort u
      match atoi portStr with
      | none => .error s!"invalid port: {portStr}"
      | some port =>
        if !p.isAllowedPort port then .error s!"port {port} is not allowed"
        else p.validateHost lib host

end SSRFProtection

end Xingkong
