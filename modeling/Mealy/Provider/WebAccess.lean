import Mealy.Context.SessionSearch

/-! The web authority of a task (`web_config.rs`). A URL is granted by its exact origin, by the
whole public web or by a domain whose name ends the name of the host at a dot. The text of an
address ends at a dot as well, so that a domain of digits grants addresses. -/

namespace Mealy.Web
open Context Transaction

/-! ### URLs -/

inductive HostKind where
  | domain | ipv4 | ipv6
deriving DecidableEq

/-- A host as the `url` crate reads it, with its text (`host_str`). -/
structure Host where
  kind : HostKind
  text : String

/-- A parsed URL; `origin` is the ASCII text of its origin. -/
structure Url where
  (scheme username : String)
  password : Option String := none
  host : Option Host
  port : Option Nat := none
  path : String
  query : Option String := none
  fragment : Option String := none
  origin : String

inductive IpAddr where
  | v4 (octets : List Nat) | v6 (segments : List Nat)

def IpAddr.isLoopback : IpAddr → Bool
  | v4 octets => octets.head? = some 127
  | v6 segments => segments = [0, 0, 0, 0, 0, 0, 0, 1]

/-- `Url::parse`, and the reader of IPv6 texts in the standard library. -/
structure UrlLibrary where
  parse : String → Option Url
  ipv6Addr : String → Option (List Nat)

def isAsciiDigit (c : Char) : Bool := 48 ≤ c.toNat ∧ c.toNat ≤ 57

/-- One to three digits without a leading zero, at most 255. -/
def ipv4Octet (text : List Char) : Option Nat :=
  let value := text.foldl (fun value c => 10 * value + (c.toNat - 48)) 0
  if text ≠ [] ∧ text.length ≤ 3 ∧ text.all isAsciiDigit ∧ (text.head? = some '0' → text.length = 1) ∧ value ≤ 255 then some value
  else none

def ipv4Addr (text : String) : Option (List Nat) :=
  let parts := text.toList.splitOn '.'
  if parts.length = 4 then parts.mapM ipv4Octet else none

/-- `str::parse::<IpAddr>`. -/
def UrlLibrary.ipAddr (library : UrlLibrary) (text : String) : Option IpAddr :=
  (ipv4Addr text).map .v4 <|> (library.ipv6Addr text).map .v6

/-- Whether the host is a literal loopback address. -/
def UrlLibrary.isLocal (library : UrlLibrary) (url : Url) : Bool :=
  url.host.any fun host => (library.ipAddr host.text).any IpAddr.isLoopback

/-- HTTPS, or HTTP to the own machine. -/
def UrlLibrary.isSafeTransport (library : UrlLibrary) (url : Url) : Bool :=
  url.scheme = "https" ∨ url.scheme = "http" ∧ library.isLocal url

/-! ### Configuration -/

inductive ProviderCredentialReference where
  | environment (name : String) | broker (secretId : String)

def isAsciiUpper (c : Char) : Bool := 65 ≤ c.toNat ∧ c.toNat ≤ 90

def isAsciiAlphanumeric (c : Char) : Bool := isAsciiDigit c ∨ isAsciiLetter c

def validProviderSecretId (value : String) : Bool :=
  value ≠ "" ∧ value.utf8ByteSize ≤ 128 ∧ value ≠ "." ∧ value ≠ ".." ∧ value.toList.head? ≠ some '.' ∧
    value.toList.all fun c => isAsciiAlphanumeric c ∨ c = '.' ∨ c = '_' ∨ c = '-'

def validEnvironmentName (value : String) : Bool :=
  value.toList.head?.any (fun c => c = '_' ∨ isAsciiUpper c) ∧ value.utf8ByteSize ≤ 128 ∧
    value.toList.tail.all fun c => c = '_' ∨ isAsciiUpper c ∨ isAsciiDigit c

def ProviderCredentialReference.valid : ProviderCredentialReference → Bool
  | environment name => validEnvironmentName name
  | broker secretId => validProviderSecretId secretId

/-- `WebSearchConfig::Brave`. -/
structure WebSearchConfig where
  baseUrl : String
  credential : ProviderCredentialReference

structure WebAccessConfig where
  enabled : Bool := false
  allowPublicInternet : Bool := false
  allowedDomains : List String := []
  allowedOrigins : List String := []
  search : Option WebSearchConfig := none

inductive WebAccessConfigError where
  | invalid
deriving DecidableEq

def validDomain (value : String) : Bool :=
  value ≠ "" ∧ value.utf8ByteSize ≤ 253 ∧ value.toList.map lower = value.toList ∧ value.toList.head? ≠ some '.' ∧
    value.toList.getLast? ≠ some '.' ∧ (value.toList.splitOn '.').all fun label =>
      label ≠ [] ∧ label.length ≤ 63 ∧ label.head? ≠ some '-' ∧ label.getLast? ≠ some '-' ∧
        label.all fun c => isAsciiAlphanumeric c ∨ c = '-'

/-- A URL text within its bound, without credentials, query and fragment. -/
def UrlLibrary.parsePlain (library : UrlLibrary) (value : String) : Option Url :=
  if value = "" ∨ value.utf8ByteSize > 2048 ∨ isTrimmed value = false then none
  else (library.parse value).filter fun url =>
    url.username = "" ∧ url.password = none ∧ url.query = none ∧ url.fragment = none

def UrlLibrary.canonicalAllowedOrigin (library : UrlLibrary) (value : String) : Option String :=
  ((library.parsePlain value).filter fun url => url.path = "/" ∧ library.isSafeTransport url).map Url.origin

def UrlLibrary.validatedEndpoint (library : UrlLibrary) (value : String) : Option Bool :=
  ((library.parsePlain value).filter fun url => url.host.isSome ∧ library.isSafeTransport url).map library.isLocal

def WebSearchConfig.validate (library : UrlLibrary) (search : WebSearchConfig) : Except WebAccessConfigError Unit :=
  ensure ((library.validatedEndpoint search.baseUrl).isSome ∧ search.credential.valid) .invalid

def WebAccessConfig.validate (library : UrlLibrary) (config : WebAccessConfig) : Except WebAccessConfigError Unit := do
  let grantsNothing := !config.allowPublicInternet && config.allowedDomains.isEmpty && config.allowedOrigins.isEmpty &&
    config.search.isNone
  if !config.enabled then ensure grantsNothing .invalid
  else
    ensure (config.allowedDomains.length ≤ 128 ∧ config.allowedOrigins.length ≤ 64 ∧ grantsNothing = false) .invalid
    ensure (config.allowedDomains.all validDomain ∧ config.allowedDomains.Nodup) .invalid
    ensure ((config.allowedOrigins.all fun origin => library.canonicalAllowedOrigin origin = some origin) ∧
      config.allowedOrigins.Nodup) .invalid
    match config.search with
    | none => pure ()
    | some search => search.validate library

def WebAccessConfig.capabilityNetworkDestinations (config : WebAccessConfig) : List String :=
  if config.enabled then
    (if config.allowPublicInternet then ["public:https"] else []) ++ config.allowedDomains.map ("domain:" ++ ·) ++
      config.allowedOrigins.map ("origin:" ++ ·) ++ (config.search.map fun search => "search:" ++ search.baseUrl).toList
  else []

/-! ### Authorization -/

def strip (start text : String) : Option (List Char) :=
  if start.toList.isPrefixOf text.toList then some (text.toList.drop start.toList.length) else none

/-- The host is the domain or a name below it. -/
def hostWithin (host domain : List Char) : Bool := host = domain ∨ ('.' :: domain).isSuffixOf host

def webUrlAuthorizedByCapabilities (library : UrlLibrary) (value : String) (destinations : List String) : Bool :=
  match library.parse value with
  | none => false
  | some url =>
    match url.host with
    | none => false
    | some host =>
      if url.username ≠ "" ∨ url.password.isSome ∨ url.fragment.isSome then false
      else if destinations.contains ("origin:" ++ url.origin) then library.isSafeTransport url
      else if url.scheme ≠ "https" ∨ url.port.isSome then false
      else destinations.contains "public:https" || destinations.any fun destination =>
        (strip "domain:" destination).any (hostWithin (host.text.toList.map lower))

theorem strip_eq_some {start text rest} : strip start text = some rest ↔ text = start ++ String.ofList rest := by
  rw [strip]
  constructor
  · intro stripped
    split at stripped
    next begins =>
      obtain ⟨rest', same⟩ := List.isPrefixOf_iff_prefix.mp begins
      rw [← same, List.drop_left, Option.some.injEq] at stripped
      rw [← String.toList_inj, String.toList_append, String.toList_ofList, ← stripped, same]
    next => cases stripped
  · rintro rfl
    simp [String.toList_append, List.isPrefixOf_iff_prefix]

/-- Without user, password and fragment. -/
def Url.isClean (url : Url) : Bool := url.username = "" ∧ url.password = none ∧ url.fragment = none

/-- A URL that grants other than its origin can cover: clean HTTPS on the default port. -/
def Url.isPublic (url : Url) : Bool := url.isClean ∧ url.scheme = "https" ∧ url.port = none

section Authorized
variable {library : UrlLibrary} {value : String} {destinations : List String} {url : Url} {host : Host}

/-- The whole public web, or a domain with the host in it. -/
def Covered (destinations : List String) (host : Host) : Prop :=
  "public:https" ∈ destinations ∨ ∃ name, "domain:" ++ String.ofList name ∈ destinations ∧
    hostWithin (host.text.toList.map lower) name = true

/-- The two ways to authorize a URL with a host. -/
inductive Granted (library : UrlLibrary) (destinations : List String) (url : Url) (host : Host) : Prop
  | origin : "origin:" ++ url.origin ∈ destinations → url.isClean = true → library.isSafeTransport url = true →
      Granted library destinations url host
  | web : Covered destinations host → url.isPublic = true → Granted library destinations url host

theorem Granted.mono {more} (granted : Granted library destinations url host) (included : destinations ⊆ more) :
    Granted library more url host := by
  cases granted with
  | origin member clean transport => exact .origin (included member) clean transport
  | web covered isPublic =>
    refine .web ?_ isPublic
    rcases covered with member | ⟨name, member, within_⟩
    · exact .inl (included member)
    · exact .inr ⟨name, included member, within_⟩

theorem isClean_iff : url.isClean = true ↔
    ¬ (url.username ≠ "" ∨ url.password.isSome = true ∨ url.fragment.isSome = true) := by
  simp [Url.isClean]

theorem isPublic_iff : url.isPublic = true ↔ url.isClean = true ∧ ¬ (url.scheme ≠ "https" ∨ url.port.isSome = true) := by
  simp [Url.isPublic]

theorem isSafeTransport_of_isPublic (isPublic : url.isPublic = true) : library.isSafeTransport url = true := by
  have secure : url.scheme = "https" := by
    by_contra other
    exact (isPublic_iff.mp isPublic).2 (.inl other)
  simp [UrlLibrary.isSafeTransport, secure]

theorem Granted.isClean (granted : Granted library destinations url host) : url.isClean = true := by
  cases granted with
  | origin _ clean _ => exact clean
  | web _ isPublic => exact (isPublic_iff.mp isPublic).1

theorem covered_iff : (destinations.contains "public:https" || destinations.any fun destination =>
    (strip "domain:" destination).any (hostWithin (host.text.toList.map lower))) = true ↔ Covered destinations host := by
  rw [Bool.or_eq_true, List.contains_iff_mem, List.any_eq_true, Covered]
  apply or_congr_right
  constructor
  · rintro ⟨destination, member, found⟩
    obtain ⟨name, stripped, within_⟩ := (Option.any_eq_true ..).mp found
    rw [strip_eq_some] at stripped
    exact ⟨name, stripped ▸ member, within_⟩
  · rintro ⟨name, member, within_⟩
    refine ⟨_, member, ?_⟩
    rw [strip_eq_some.mpr rfl]
    exact within_

theorem authorized_iff : webUrlAuthorizedByCapabilities library value destinations = true ↔
    ∃ url host, library.parse value = some url ∧ url.host = some host ∧ Granted library destinations url host := by
  rw [webUrlAuthorizedByCapabilities]
  cases parsed : library.parse value with
  | none => simp
  | some url =>
    cases hosted : url.host with
    | none => simp [hosted]
    | some host =>
      simp only [Option.some.injEq, exists_and_left, exists_eq_left', hosted]
      constructor
      · intro accepted
        split at accepted
        next => cases accepted
        next clean =>
          rw [← isClean_iff] at clean
          split at accepted
          next exact_ => exact .origin (List.contains_iff_mem.mp exact_) clean accepted
          next =>
            split at accepted
            next => cases accepted
            next secure => exact .web (covered_iff.mp accepted) (isPublic_iff.mpr ⟨clean, secure⟩)
      · intro granted
        rw [if_neg (isClean_iff.mp granted.isClean)]
        split
        next =>
          cases granted with
          | origin _ _ transport => exact transport
          | web _ isPublic => exact isSafeTransport_of_isPublic isPublic
        next other =>
          cases granted with
          | origin member _ _ => exact absurd (List.contains_iff_mem.mpr member) other
          | web covered isPublic =>
            rw [if_neg (isPublic_iff.mp isPublic).2]
            exact covered_iff.mpr covered

theorem domain_authorized_iff {name : List Char} (parsed : library.parse value = some url) (hosted : url.host = some host) :
    webUrlAuthorizedByCapabilities library value ["domain:" ++ String.ofList name] = true ↔
      url.isPublic = true ∧ hostWithin (host.text.toList.map lower) name = true := by
  rw [authorized_iff]
  constructor
  · rintro ⟨url', host', parsed', hosted', granted⟩
    cases parsed.symm.trans parsed'
    cases hosted.symm.trans hosted'
    cases granted with
    | origin member _ _ =>
      have first := congrArg (fun text => text.toList.head?) (List.mem_singleton.mp member)
      simp at first
    | web covered isPublic =>
      refine ⟨isPublic, ?_⟩
      rcases covered with member | ⟨name', member, within_⟩
      · have first := congrArg (fun text => text.toList.head?) (List.mem_singleton.mp member)
        simp at first
      · have same := congrArg String.toList (List.mem_singleton.mp member)
        rw [String.toList_append, String.toList_append, List.append_cancel_left_eq, String.toList_ofList,
          String.toList_ofList] at same
        exact same ▸ within_
  · rintro ⟨isPublic, within_⟩
    exact ⟨url, host, parsed, hosted, .web (.inr ⟨name, List.mem_singleton_self _, within_⟩) isPublic⟩

theorem authorized_insecure (parsed : library.parse value = some url) (insecure : url.scheme ≠ "https")
    (authorized : webUrlAuthorizedByCapabilities library value destinations = true) :
    "origin:" ++ url.origin ∈ destinations ∧ ∃ host address, url.host = some host ∧
      library.ipAddr host.text = some address ∧ address.isLoopback = true := by
  obtain ⟨url', host, parsed', hosted, granted⟩ := authorized_iff.mp authorized
  cases parsed.symm.trans parsed'
  cases granted with
  | origin member _ transport =>
    simp only [UrlLibrary.isSafeTransport, insecure, false_or, decide_eq_true_eq, UrlLibrary.isLocal, hosted,
      Option.any_some] at transport
    obtain ⟨address, read, loopback⟩ := (Option.any_eq_true ..).mp transport.2
    exact ⟨member, host, address, hosted, read, loopback⟩
  | web _ isPublic => exact absurd (.inl insecure) (isPublic_iff.mp isPublic).2

theorem authorized_by_one (authorized : webUrlAuthorizedByCapabilities library value destinations = true) :
    ∃ destination ∈ destinations, webUrlAuthorizedByCapabilities library value [destination] = true := by
  obtain ⟨url, host, parsed, hosted, granted⟩ := authorized_iff.mp authorized
  have alone {destination} (granted : Granted library [destination] url host) :
      webUrlAuthorizedByCapabilities library value [destination] = true :=
    authorized_iff.mpr ⟨url, host, parsed, hosted, granted⟩
  cases granted with
  | origin member clean transport => exact ⟨_, member, alone (.origin (List.mem_singleton_self _) clean transport)⟩
  | web covered isPublic =>
    rcases covered with member | ⟨name, member, within_⟩
    · exact ⟨_, member, alone (.web (.inl (List.mem_singleton_self _)) isPublic)⟩
    · exact ⟨_, member, alone (.web (.inr ⟨name, List.mem_singleton_self _, within_⟩) isPublic)⟩

end Authorized

/-- More grants authorize more, plain HTTP needs the exact origin of a loopback address, and the
domain grants of a URL keep to names exactly when its host is one or no domain grant covers it. -/
theorem web_authority_iff (library : UrlLibrary) (value : String) :
    (∀ fewer more, fewer ⊆ more → webUrlAuthorizedByCapabilities library value fewer = true →
      webUrlAuthorizedByCapabilities library value more = true) ∧
    (∀ destinations url, library.parse value = some url → url.scheme ≠ "https" →
      webUrlAuthorizedByCapabilities library value destinations = true →
        "origin:" ++ url.origin ∈ destinations ∧ ∃ host address, url.host = some host ∧
          library.ipAddr host.text = some address ∧ address.isLoopback = true) ∧
    (∀ destinations, webUrlAuthorizedByCapabilities library value destinations = true →
      ∃ destination ∈ destinations, webUrlAuthorizedByCapabilities library value [destination] = true) ∧
    ∀ url host, library.parse value = some url → url.host = some host →
      ((∀ name, webUrlAuthorizedByCapabilities library value ["domain:" ++ String.ofList name] = true →
        host.kind = .domain ∧ (host.text.toList.map lower = name ∨ '.' :: name <:+ host.text.toList.map lower)) ↔
      (host.kind = .domain ∨ url.isPublic = false)) := by
  refine ⟨?_, fun _ _ => authorized_insecure, fun _ => authorized_by_one, ?_⟩
  · intro fewer more included authorized
    obtain ⟨url, host, parsed, hosted, granted⟩ := authorized_iff.mp authorized
    exact authorized_iff.mpr ⟨url, host, parsed, hosted, granted.mono included⟩
  · intro url host parsed hosted
    constructor
    · intro names
      by_contra other
      rw [not_or, Bool.not_eq_false] at other
      -- The text of the host is a domain that holds it.
      have own : hostWithin (host.text.toList.map lower) (host.text.toList.map lower) = true := by simp [hostWithin]
      exact other.1 (names _ ((domain_authorized_iff parsed hosted).mpr ⟨other.2, own⟩)).1
    · intro named name authorized
      obtain ⟨isPublic, within_⟩ := (domain_authorized_iff parsed hosted).mp authorized
      rw [isPublic] at named
      refine ⟨named.resolve_right (by simp), ?_⟩
      simpa [hostWithin] using within_

/-- The library at the URL of a name server. -/
def sampleLibrary : UrlLibrary where
  parse := fun value => if value = "https://8.8.8.8/" then
    some { scheme := "https", username := "", host := some ⟨.ipv4, "8.8.8.8"⟩, path := "/", origin := "https://8.8.8.8" } else none
  ipv6Addr := fun _ => none

def sampleConfig : WebAccessConfig := { enabled := true, allowedDomains := ["8"] }

/-- A domain that the configuration accepts, and an address that it grants. -/
theorem address_granted_by_domain : sampleConfig.validate sampleLibrary = .ok () ∧
    sampleConfig.capabilityNetworkDestinations = ["domain:8"] ∧
    webUrlAuthorizedByCapabilities sampleLibrary "https://8.8.8.8/" sampleConfig.capabilityNetworkDestinations = true ∧
    ((sampleLibrary.parse "https://8.8.8.8/").bind Url.host).map Host.kind = some .ipv4 := by
  decide +kernel

end Mealy.Web
