import SyndicateClaw.Inference.SyncRunner
import SyndicateClaw.Security.ApiKeys

/-! The fetch of the feed, with the checks of every URL and the addresses it connects to. -/

namespace SyndicateClaw.Inference

open Security (strip)

/-! ### Addresses -/

/-- What the `ipaddress` module says of an address. -/
structure AddressFacts where
  text : String
  isLoopback : Bool := false
  isLinkLocal : Bool := false
  isPrivate : Bool := false
  isMulticast : Bool := false
  isReserved : Bool := false
  isUnspecified : Bool := false
  isGlobal : Bool := true
  deriving DecidableEq

inductive IpAddress where
  | v4 (facts : AddressFacts)
  | v6 (facts : AddressFacts) (ipv4Mapped : Option AddressFacts)
  deriving DecidableEq

def IpAddress.facts : IpAddress → AddressFacts
  | .v4 facts => facts
  | .v6 facts _ => facts

/-- `str(ip)`. -/
def IpAddress.text (ip : IpAddress) : String := ip.facts.text

def AddressFacts.special (facts : AddressFacts) : Bool :=
  facts.isLoopback || facts.isLinkLocal || facts.isPrivate || facts.isMulticast ||
    facts.isReserved || facts.isUnspecified

def ipv4IsBlocked (facts : AddressFacts) : Bool :=
  facts.special || facts.text = "169.254.169.254"

def ipAddressIsBlocked : IpAddress → Bool
  | .v4 facts => ipv4IsBlocked facts
  | .v6 facts ipv4Mapped => facts.special || ipv4Mapped.any ipv4IsBlocked

/-! ### The surroundings -/

structure ParsedUrl where
  scheme : String
  hostname : Option String
  -- The property raises a `ValueError` for a port out of range.
  port : Except String (Option Nat)
  path : String
  query : String

/-- A URL as `httpx` reads it. -/
structure RequestUrl where
  scheme : String
  host : String
  port : Option Nat

/-- What the next step of a body comes to. `aiter_bytes` yields no empty chunk. -/
inductive BodyPart where
  | chunk (first : UInt8) (rest : List UInt8)
  | finished
  | breaks (message : String)

structure Reply where
  status : Int
  location : Option String
  body : Nat → BodyPart

/-- An exception of `socket.getaddrinfo`: an `OSError` or another one. -/
inductive ResolveError where
  | osError (message : String)
  | other (message : String)

inductive NetEvent where
  | resolved (host : String) (addresses : List String)
  | checked (ip : IpAddress)
  | request (url : String)
  | connect (ip : IpAddress) (port : Nat) (hostname : String)
  deriving DecidableEq

/-- `socket`, `urlparse`, `ipaddress` and `httpx`, and the servers behind them. What a server does,
and what DNS answers, may be another thing in every pass of the loop. -/
structure Internet where
  lower : String → String
  urlparse : String → Except String ParsedUrl
  urljoin : String → String → Except String String
  ipAddress : String → Except String IpAddress
  getaddrinfo : Nat → String → Except ResolveError (List String)
  httpxUrl : String → Except String RequestUrl
  answer : Nat → (ip : IpAddress) → (port : Nat) → (hostname : String) → Except String Reply
  ipAddress_text : ∀ text ip, ipAddress text = .ok ip → ipAddress ip.text = .ok ip

abbrev AsyncTransport := Nat → RequestUrl → Except String Reply

/-! ### `resolve_safe_url` -/

structure ResolvedSafeURL where
  originalUrl : String
  scheme : String
  hostname : String
  port : Nat
  resolvedIp : String
  pathAndQuery : String

/-- `text.rstrip(".")`. -/
def rstripDots (text : String) : String := String.ofList (text.toList.rdropWhile (· = '.'))

/-- `text.lstrip(".")`. -/
def lstripDots (text : String) : String := String.ofList (text.toList.dropWhile (· = '.'))

/-- `port or default`. -/
def portOr (port : Option Nat) (default : Nat) : Nat := (port.filter (· ≠ 0)).getD default

def pathAndQueryFromParsed (parsed : ParsedUrl) : String :=
  let path := if parsed.path = "" then "/" else parsed.path
  if parsed.query = "" then path else path ++ "?" ++ parsed.query

namespace Internet

variable (net : Internet)

/-- `raw.lower().strip().lstrip(".")`. -/
def suffixOf (raw : String) : String := lstripDots (strip (net.lower raw))

def hostnameAllowedForSuffixes (hostname : String) (allowedSuffixes : List String) : Bool :=
  let h := rstripDots (net.lower hostname)
  allowedSuffixes.any fun raw =>
    h = net.suffixOf raw || ("." ++ net.suffixOf raw).toList.isSuffixOf h.toList

def resolveHostnameIps (hop : Nat) (hostname : String) : Except ResolveError (List String) :=
  (net.getaddrinfo hop hostname).map List.eraseDups

/-- The address that the connection is pinned to: the host itself, or the first one in the order of
the resolved ones. -/
def pinnedIp (hop : Nat) (host : String) : List NetEvent × Except FetchError String :=
  match net.ipAddress host with
  | .ok ip =>
      if ipAddressIsBlocked ip then ([], .error (.ssrfBlocked "blocked_address_literal"))
      else ([.checked ip], .ok ip.text)
  | .error _ =>
      match net.resolveHostnameIps hop host with
      | .error (.osError message) =>
          ([], .error (.ssrfBlocked ("dns_resolution_failed:" ++ message)))
      | .error (.other message) => ([], .error (.other message))
      | .ok resolvedIps =>
          match sortBy id resolvedIps with
          | [] => ([.resolved host resolvedIps], .error (.ssrfBlocked "no_addresses"))
          | first :: _ =>
              match resolvedIps.mapM fun text => (net.ipAddress text).map (text, ·) with
              | .error message => ([.resolved host resolvedIps], .error (.other message))
              | .ok ips =>
                  match ips.find? fun entry => ipAddressIsBlocked entry.2 with
                  | some (text, _) =>
                      ([.resolved host resolvedIps],
                        .error (.ssrfBlocked ("blocked_resolved:" ++ text)))
                  | none =>
                      (.resolved host resolvedIps :: ips.map fun entry => .checked entry.2,
                        .ok first)

def resolveSafeUrl (allowedHostSuffixes : List String) (hop : Nat) (url : String) :
    List NetEvent × Except FetchError ResolvedSafeURL :=
  match net.urlparse url with
  | .error message => ([], .error (.other message))
  | .ok parsed =>
      if net.lower parsed.scheme ≠ "https" then ([], .error (.ssrfBlocked "only_https_allowed"))
      else
        match parsed.hostname.filter (· ≠ "") with
        | none => ([], .error (.ssrfBlocked "missing_hostname"))
        | some hostname =>
            let host := rstripDots (net.lower hostname)
            if net.hostnameAllowedForSuffixes host allowedHostSuffixes then
              match parsed.port with
              | .error message => ([], .error (.other message))
              | .ok port =>
                  let (checks, pinned) := net.pinnedIp hop host
                  (checks, pinned.map fun resolvedIp =>
                    { originalUrl := url, scheme := net.lower parsed.scheme, hostname
                      port := portOr port 443, resolvedIp
                      pathAndQuery := pathAndQueryFromParsed parsed })
            else ([], .error (.ssrfBlocked "host_not_in_allowlist"))

/-! ### `PinnedIPAsyncTransport` -/

end Internet

structure PinnedIPAsyncTransport where
  pinnedIp : IpAddress
  hostname : String
  scheme : String
  port : Nat
  hostHeader : String

/-- `_default_port_for_scheme`. -/
def defaultPortForScheme (scheme : String) : Except String Nat :=
  if scheme = "https" then .ok 443
  else if scheme = "http" then .ok 80
  else .error ("Unsupported URL scheme '" ++ scheme ++ "'")

namespace Internet

variable (net : Internet)

/-- `PinnedIPAsyncTransport(...)`. -/
def pin (target : ResolvedSafeURL) : Except String PinnedIPAsyncTransport :=
  match defaultPortForScheme target.scheme with
  | .error message => .error message
  | .ok defaultPort =>
      match net.ipAddress target.resolvedIp with
      | .error _ => .error ("Invalid pinned IP address '" ++ target.resolvedIp ++ "'")
      | .ok ip =>
          match net.ipAddress ip.text with
          | .error message => .error message
          | .ok again =>
              if again.facts.isGlobal then
                let hostname := rstripDots (net.lower target.hostname)
                .ok
                  { pinnedIp := ip, hostname, scheme := target.scheme, port := target.port
                    hostHeader := if target.port = defaultPort then hostname
                      else hostname ++ ":" ++ toString target.port }
              else .error ("Blocked private IP: " ++ ip.text)

/-- `handle_async_request`. -/
def handleAsyncRequest (pinned : PinnedIPAsyncTransport) (hop : Nat) (request : RequestUrl) :
    List NetEvent × Except String Reply :=
  match defaultPortForScheme request.scheme with
  | .error message => ([], .error message)
  | .ok defaultPort =>
      let requestHost := rstripDots (net.lower request.host)
      let requestPort := portOr request.port defaultPort
      if request.scheme ≠ pinned.scheme then
        ([], .error ("Scheme mismatch: request=" ++ request.scheme ++ ", pinned=" ++ pinned.scheme))
      else if requestHost ≠ pinned.hostname then
        ([], .error ("Host mismatch: request=" ++ requestHost ++ ", pinned=" ++ pinned.hostname))
      else if requestPort ≠ pinned.port then
        ([], .error ("Port mismatch: request=" ++ toString requestPort ++ ", pinned=" ++
          toString pinned.port))
      else
        ([.connect pinned.pinnedIp pinned.port pinned.hostname],
          net.answer hop pinned.pinnedIp pinned.port pinned.hostname)

/-! ### The fetch -/

variable (transport : Option AsyncTransport)

/-- `client.stream("GET", url)`. -/
def stream (pinned : PinnedIPAsyncTransport) (hop : Nat) (url : String) :
    List NetEvent × Except String Reply :=
  match net.httpxUrl url with
  | .error message => ([], .error message)
  | .ok request =>
      match transport with
      | some handle => ([.request url], handle hop request)
      | none =>
          let (sent, reply) := net.handleAsyncRequest pinned hop request
          (.request url :: sent, reply)

end Internet

/-- How a pass of the loop ends: with an outcome, with a body to read or with another URL. -/
inductive Next where
  | stop (error : FetchError)
  | read (body : Nat → BodyPart)
  | follow (url : String)

/-- The loop over `resp.aiter_bytes()`; none where the fuel does not suffice. -/
def readStream (body : Nat → BodyPart) (maxBytes : Int) :
    (fuel i total : Nat) → (chunks : List UInt8) → Option (Except FetchError (List UInt8))
  | 0, _, _, _ => none
  | fuel + 1, i, total, chunks =>
      match body i with
      | .finished => some (.ok chunks)
      | .breaks message => some (.error (.other message))
      | .chunk first rest =>
          let total := total + (first :: rest).length
          if maxBytes < total then some (.error (.fetchFailed "response_exceeds_max_bytes"))
          else readStream body maxBytes fuel (i + 1) total (chunks ++ first :: rest)

namespace Internet

variable (net : Internet) (transport : Option AsyncTransport) (allowedHostSuffixes : List String)
  (maxBytes maxRedirects : Int)

def next (redirects : Int) (current : String) (reply : Reply) : Next :=
  if reply.status ∈ redirectStatus then
    if maxRedirects < redirects + 1 then .stop (.fetchFailed "too_many_redirects")
    else
      match reply.location.filter (· ≠ "") with
      | none => .stop (.fetchFailed "redirect_missing_location")
      | some location =>
          match net.urljoin current location with
          | .error message => .stop (.other message)
          | .ok url => .follow url
  else if reply.status < 200 ∨ 300 ≤ reply.status then
    .stop (.fetchFailed ("http_" ++ toString reply.status))
  else .read reply.body

/-- The body of `while True`. -/
def pass (hop : Nat) (redirects : Int) (current : String) : List NetEvent × Next :=
  match net.resolveSafeUrl allowedHostSuffixes hop current with
  | (checks, .error (.ssrfBlocked message)) => (checks, .stop (.ssrfBlocked message))
  | (checks, .error error) => (checks, .stop (.fetchFailed error.message))
  | (checks, .ok target) =>
      if target.scheme ≠ "https" then (checks, .stop (.fetchFailed "only_https_allowed"))
      else
        match net.pin target with
        | .error message => (checks, .stop (.other message))
        | .ok pinned =>
            match net.stream transport pinned hop target.originalUrl with
            | (sent, .error message) => (checks ++ sent, .stop (.other message))
            | (sent, .ok reply) => (checks ++ sent, net.next maxRedirects redirects current reply)

/-- `while True`, with what every pass does to the outside. -/
def fetchLoop : (fuel hop : Nat) → (redirects : Int) → (current : String) →
    Option (List (List NetEvent) × Except FetchError (List UInt8))
  | 0, _, _, _ => none
  | fuel + 1, hop, redirects, current =>
      match net.pass transport allowedHostSuffixes maxRedirects hop redirects current with
      | (events, .stop error) => some ([events], .error error)
      | (events, .read body) =>
          (readStream body maxBytes fuel 0 0 []).map fun outcome => ([events], outcome)
      | (events, .follow url) =>
          (fetchLoop fuel (hop + 1) (redirects + 1) url).map fun (passes, outcome) =>
            (events :: passes, outcome)

/-- `fetch_https_bytes_bounded`. -/
def fetchHttpsBytesBounded (fuel : Nat) (url : String) :
    Option (List (List NetEvent) × Except FetchError (List UInt8)) :=
  net.fetchLoop transport allowedHostSuffixes maxBytes maxRedirects fuel 0 0 url

/-! ### What a pass does -/

end Internet

def InOrBelow (host suffix : String) : Prop :=
  suffix.toList.splitOn '.' <:+ host.toList.splitOn '.'

def NetEvent.isRequest : NetEvent → Bool
  | .request _ => true
  | _ => false

def NetEvent.Outbound : NetEvent → Prop
  | .request _ | .connect _ _ _ => True
  | .resolved _ _ | .checked _ => False

namespace Internet

section

variable (net : Internet) (allowedHostSuffixes : List String)

/-- The addresses of a host, and the events in which they are found and checked: the host itself
where it is an address, or else all that DNS answers. -/
inductive Checked (hop : Nat) (host : String) : List IpAddress → List NetEvent → Prop where
  | literal {ip : IpAddress} (own : net.ipAddress host = .ok ip) :
      Checked hop host [ip] [.checked ip]
  | resolved {ips : List (String × IpAddress)}
      (answered : net.resolveHostnameIps hop host = .ok (ips.map Prod.fst))
      (all : ∀ entry ∈ ips, net.ipAddress entry.1 = .ok entry.2) :
      Checked hop host (ips.map Prod.snd)
        (.resolved host (ips.map Prod.fst) :: ips.map fun entry => .checked entry.2)

/-- A URL is cleared in a pass: the scheme is https, the host is in or below an allowed suffix, and
none of its addresses is blocked. -/
structure Cleared (hop : Nat) (url host : String) (ips : List IpAddress) (checks : List NetEvent) :
    Prop where
  parsed : ∃ parsed name, net.urlparse url = .ok parsed ∧ net.lower parsed.scheme = "https" ∧
    parsed.hostname = some name ∧ host = rstripDots (net.lower name)
  allowed : ∃ raw ∈ allowedHostSuffixes,
    InOrBelow (rstripDots (net.lower host)) (net.suffixOf raw)
  checked : net.Checked hop host ips checks
  unblocked : ∀ ip ∈ ips, ipAddressIsBlocked ip = false

/-- A pass sends nothing, or it clears a URL, requests it and connects to one of the addresses. -/
inductive SafePass : List NetEvent → Prop where
  | silent {events : List NetEvent} (none : ∀ event ∈ events, ¬ event.Outbound) : SafePass events
  | requested {hop : Nat} {url host : String} {ips : List IpAddress} {checks : List NetEvent}
      (cleared : net.Cleared allowedHostSuffixes hop url host ips checks) :
      SafePass (checks ++ [.request url])
  | connected {hop : Nat} {url host : String} {ips : List IpAddress} {checks : List NetEvent}
      (cleared : net.Cleared allowedHostSuffixes hop url host ips checks) {ip : IpAddress}
      (member : ip ∈ ips) (port : Nat) :
      SafePass (checks ++ [.request url, .connect ip port host])

end

variable {net : Internet} {allowedHostSuffixes : List String}

theorem inOrBelow_of_allowed {hostname : String}
    (allowed : net.hostnameAllowedForSuffixes hostname allowedHostSuffixes = true) :
    ∃ raw ∈ allowedHostSuffixes,
      InOrBelow (rstripDots (net.lower hostname)) (net.suffixOf raw) := by
  obtain ⟨raw, member, fits⟩ := List.any_eq_true.mp allowed
  refine ⟨raw, member, ?_⟩
  unfold InOrBelow
  simp only [Bool.or_eq_true, decide_eq_true_eq, List.isSuffixOf_iff_suffix] at fits
  rcases fits with same | ⟨before, ends⟩
  · rw [same]
  · have dotted : ("." ++ net.suffixOf raw).toList = '.' :: (net.suffixOf raw).toList := by
      rw [String.toList_append]
      rfl
    rw [← ends, dotted, List.splitOn_append_cons_self]
    exact List.suffix_append _ _

theorem pinnedIp_silent (hop : Nat) (host : String) :
    ∀ event ∈ (net.pinnedIp hop host).1, ¬ event.Outbound := by
  have checks (ips : List (String × IpAddress)) (event : NetEvent)
      (member : event ∈ ips.map fun entry => NetEvent.checked entry.2) : ¬ event.Outbound := by
    obtain ⟨entry, -, rfl⟩ := List.mem_map.mp member
    exact id
  unfold pinnedIp
  split
  · split <;> simp [NetEvent.Outbound]
  · split
    · exact List.forall_mem_nil _
    · exact List.forall_mem_nil _
    · split
      · simp [NetEvent.Outbound]
      · split
        · simp [NetEvent.Outbound]
        · split
          · simp [NetEvent.Outbound]
          · exact List.forall_mem_cons.mpr ⟨id, checks _⟩

private theorem mapM_ok {α β : Type} {f : α → Except String β} {items : List α}
    {results : List β} (done : items.mapM f = .ok results) :
    List.Forall₂ (fun item result => f item = .ok result) items results := by
  induction items generalizing results with
  | nil =>
      obtain rfl : [] = results := by simpa [pure, Except.pure] using done
      exact .nil
  | cons item items ih =>
      rw [List.mapM_cons] at done
      cases own : f item with
      | error message => simp [own, bind, Except.bind] at done
      | ok result =>
          cases later : items.mapM f with
          | error message => simp [own, later, bind, Except.bind] at done
          | ok rest =>
              obtain rfl : result :: rest = results := by
                simpa [own, later, bind, Except.bind, pure, Except.pure] using done
              exact .cons own (ih later)

theorem mapM_ipAddress {texts : List String} {ips : List (String × IpAddress)}
    (all : texts.mapM (fun text => (net.ipAddress text).map (text, ·)) = .ok ips) :
    ips.map Prod.fst = texts ∧ ∀ entry ∈ ips, net.ipAddress entry.1 = .ok entry.2 := by
  have each := mapM_ok all
  clear all
  induction each with
  | nil => exact ⟨rfl, List.forall_mem_nil _⟩
  | @cons text entry texts ips own later ih =>
      cases read : net.ipAddress text with
      | error message =>
          rw [read] at own
          cases own
      | ok ip =>
          rw [read] at own
          obtain rfl := Except.ok.inj own
          exact ⟨by rw [List.map_cons, ih.1], List.forall_mem_cons.mpr ⟨read, ih.2⟩⟩

theorem pinnedIp_ok {hop : Nat} {host pinned : String} {checks : List NetEvent}
    (done : net.pinnedIp hop host = (checks, .ok pinned)) :
    ∃ ips, net.Checked hop host ips checks ∧ (∀ ip ∈ ips, ipAddressIsBlocked ip = false) ∧
      ∃ ip ∈ ips, net.ipAddress pinned = .ok ip := by
  unfold pinnedIp at done
  split at done
  · next ip own =>
      split at done
      · cases done
      · next free =>
          cases done
          exact ⟨[ip], .literal own, by simpa using free, ip, .head _, net.ipAddress_text host ip own⟩
  · split at done
    · cases done
    · cases done
    · next resolvedIps answered =>
        split at done
        · cases done
        · next first rest sorted =>
            split at done
            · cases done
            · next ips all =>
                split at done
                · cases done
                · next free =>
                    cases done
                    obtain ⟨rfl, read⟩ := mapM_ipAddress all
                    have least : pinned ∈ ips.map Prod.fst := by
                      rw [← mem_sortBy id, sorted]
                      exact List.mem_cons_self
                    obtain ⟨entry, member, rfl⟩ := List.mem_map.mp least
                    refine ⟨ips.map Prod.snd, .resolved answered read, ?_, entry.2,
                      List.mem_map_of_mem member, read entry member⟩
                    intro ip has
                    obtain ⟨other, inside, rfl⟩ := List.mem_map.mp has
                    exact Bool.eq_false_iff.mpr (List.find?_eq_none.mp free other inside)

theorem resolveSafeUrl_silent (hop : Nat) (url : String) :
    ∀ event ∈ (net.resolveSafeUrl allowedHostSuffixes hop url).1, ¬ event.Outbound := by
  unfold resolveSafeUrl
  split
  · simp
  · split
    · simp
    · split
      · simp
      · next hostname _ =>
          dsimp only
          split
          · split
            · simp
            · exact pinnedIp_silent hop (rstripDots (net.lower hostname))
          · simp

theorem resolveSafeUrl_ok {hop : Nat} {url : String} {checks : List NetEvent}
    {target : ResolvedSafeURL}
    (done : net.resolveSafeUrl allowedHostSuffixes hop url = (checks, .ok target)) :
    ∃ ips, net.Cleared allowedHostSuffixes hop url (rstripDots (net.lower target.hostname)) ips
        checks ∧ target.originalUrl = url ∧
      ∃ ip ∈ ips, net.ipAddress target.resolvedIp = .ok ip := by
  unfold resolveSafeUrl at done
  split at done
  · cases done
  · next parsed read =>
      split at done
      · cases done
      · next secure =>
          split at done
          · cases done
          · next hostname named =>
              obtain ⟨named, -⟩ := Option.filter_eq_some_iff.mp named
              dsimp only at done
              split at done
              · next allowed =>
                  split at done
                  · cases done
                  · next port _ =>
                      obtain ⟨rfl, pins⟩ := Prod.mk.inj done
                      cases pinned : (net.pinnedIp hop (rstripDots (net.lower hostname))).2 with
                      | error error =>
                          rw [pinned] at pins
                          cases pins
                      | ok resolvedIp =>
                          rw [pinned] at pins
                          obtain rfl := Except.ok.inj pins
                          obtain ⟨ips, checked, unblocked, own⟩ :=
                            pinnedIp_ok (Prod.ext rfl pinned)
                          exact ⟨ips, ⟨⟨parsed, hostname, read, not_not.mp secure, named, rfl⟩,
                            inOrBelow_of_allowed allowed, checked, unblocked⟩, rfl, own⟩
              · cases done

theorem pin_ok {target : ResolvedSafeURL} {pinned : PinnedIPAsyncTransport}
    (done : net.pin target = .ok pinned) :
    net.ipAddress target.resolvedIp = .ok pinned.pinnedIp ∧
      pinned.hostname = rstripDots (net.lower target.hostname) := by
  unfold pin at done
  split at done
  · cases done
  · split at done
    · cases done
    · next ip own =>
        split at done
        · cases done
        · split at done
          · obtain rfl := Except.ok.inj done
            exact ⟨own, rfl⟩
          · cases done

theorem stream_events (transport : Option AsyncTransport) (pinned : PinnedIPAsyncTransport)
    (hop : Nat) (url : String) :
    (net.stream transport pinned hop url).1 = [] ∨
    (net.stream transport pinned hop url).1 = [.request url] ∨
    (net.stream transport pinned hop url).1 =
      [.request url, .connect pinned.pinnedIp pinned.port pinned.hostname] := by
  unfold stream
  split
  · exact .inl rfl
  · split
    · exact .inr (.inl rfl)
    · next request _ =>
        unfold handleAsyncRequest
        dsimp only
        repeat' split
        all_goals simp

theorem pass_safe (transport : Option AsyncTransport) (maxRedirects : Int) (hop : Nat)
    (redirects : Int) (current : String) :
    net.SafePass allowedHostSuffixes
      (net.pass transport allowedHostSuffixes maxRedirects hop redirects current).1 := by
  have silent := @resolveSafeUrl_silent net allowedHostSuffixes hop current
  unfold pass
  split
  · next checks message resolved => exact .silent (by simpa [resolved] using silent)
  · next checks error _ resolved => exact .silent (by simpa [resolved] using silent)
  · next checks target resolved =>
      rw [resolved] at silent
      obtain ⟨ips, cleared, same, ip, member, own⟩ := resolveSafeUrl_ok resolved
      split
      · exact .silent silent
      · split
        · exact .silent silent
        · next pinned pins =>
            obtain ⟨read, hostname⟩ := pin_ok pins
            obtain rfl : ip = pinned.pinnedIp := Except.ok.inj (own.symm.trans read)
            have safe : net.SafePass allowedHostSuffixes
                (checks ++ (net.stream transport pinned hop target.originalUrl).1) := by
              rw [same]
              obtain none | sent | sent := stream_events transport pinned hop current
              · rw [none, List.append_nil]
                exact .silent silent
              · rw [sent]
                exact .requested cleared
              · rw [sent, hostname]
                exact .connected cleared member pinned.port
            split <;> next sent => rwa [sent] at safe

theorem pass_follow {transport : Option AsyncTransport} {maxRedirects redirects : Int} {hop : Nat}
    {current url : String}
    (follows : (net.pass transport allowedHostSuffixes maxRedirects hop redirects current).2 =
      .follow url) : redirects + 1 ≤ maxRedirects := by
  unfold pass at follows
  split at follows
  · cases follows
  · cases follows
  · split at follows
    · cases follows
    · split at follows
      · cases follows
      · split at follows
        · cases follows
        · unfold next at follows
          dsimp only at follows
          split at follows
          · split at follows
            · cases follows
            · next within => exact not_lt.mp within
          · split at follows <;> cases follows

end Internet

/-! ### Reading a body -/

theorem readStream_ends (body : Nat → BodyPart) {maxBytes : Int} {fuel total : Nat}
    (fueled : 0 < fuel) (enough : maxBytes.toNat < fuel + total) (i : Nat) (chunks : List UInt8) :
    ∃ outcome, readStream body maxBytes fuel i total chunks = some outcome := by
  induction fuel generalizing i total chunks with
  | zero => cases fueled
  | succ fuel ih =>
      rw [readStream]
      split
      · exact ⟨_, rfl⟩
      · exact ⟨_, rfl⟩
      · next first rest _ =>
          dsimp only
          split
          · exact ⟨_, rfl⟩
          · next within =>
              rw [List.length_cons] at within ⊢
              exact ih (by omega) (by omega) (i + 1) _

theorem readStream_mono {body : Nat → BodyPart} {maxBytes : Int} {fuel i total : Nat}
    {chunks : List UInt8} {outcome : Except FetchError (List UInt8)}
    (ends : readStream body maxBytes fuel i total chunks = some outcome) :
    readStream body maxBytes (fuel + 1) i total chunks = some outcome := by
  induction fuel generalizing i total chunks with
  | zero => cases ends
  | succ fuel ih =>
      rw [readStream] at ends ⊢
      split at ends
      · exact ends
      · exact ends
      · dsimp only at ends ⊢
        split at ends
        · next beyond => rwa [if_pos beyond]
        · next within =>
            rw [if_neg within]
            exact ih ends

theorem readStream_length {body : Nat → BodyPart} {maxBytes : Int} {fuel i total : Nat}
    {chunks bytes : List UInt8}
    (ends : readStream body maxBytes fuel i total chunks = some (.ok bytes))
    (counted : chunks.length = total) (within : (total : Int) ≤ max maxBytes 0) :
    (bytes.length : Int) ≤ max maxBytes 0 := by
  induction fuel generalizing i total chunks with
  | zero => cases ends
  | succ fuel ih =>
      rw [readStream] at ends
      split at ends
      · obtain rfl := Except.ok.inj (Option.some.inj ends)
        rwa [counted]
      · cases ends
      · dsimp only at ends
        split at ends
        · cases ends
        · next fits => exact ih ends (by rw [List.length_append, counted]) (by omega)

namespace Internet

variable {net : Internet} {transport : Option AsyncTransport} {allowedHostSuffixes : List String}
  {maxBytes maxRedirects redirects : Int} {fuel hop : Nat} {current : String}
  {passes : List (List NetEvent)} {outcome : Except FetchError (List UInt8)}

/-! ### The whole loop -/

theorem fetchLoop_ends (allowedHostSuffixes : List String) (hop : Nat) (current : String)
    (enough : (maxRedirects - redirects).toNat + maxBytes.toNat + 1 < fuel) :
    ∃ result, net.fetchLoop transport allowedHostSuffixes maxBytes maxRedirects fuel hop redirects
      current = some result := by
  induction fuel generalizing hop redirects current with
  | zero => omega
  | succ fuel ih =>
      rw [fetchLoop]
      split
      · exact ⟨_, rfl⟩
      · next events body _ =>
          obtain ⟨outcome, ends⟩ :=
            @readStream_ends body maxBytes fuel 0 (by omega) (by omega) 0 []
          exact ⟨_, by rw [ends]; rfl⟩
      · next events url followed =>
          have left := pass_follow (congrArg Prod.snd followed)
          obtain ⟨result, ends⟩ := @ih (redirects + 1) (hop + 1) url (by omega)
          exact ⟨_, by rw [ends]; rfl⟩

theorem fetchLoop_mono
    (ends : net.fetchLoop transport allowedHostSuffixes maxBytes maxRedirects fuel hop redirects
      current = some (passes, outcome)) :
    net.fetchLoop transport allowedHostSuffixes maxBytes maxRedirects (fuel + 1) hop redirects
      current = some (passes, outcome) := by
  induction fuel generalizing hop redirects current passes with
  | zero => cases ends
  | succ fuel ih =>
      rw [fetchLoop] at ends ⊢
      split at ends
      · exact ends
      · obtain ⟨own, read, same⟩ := Option.map_eq_some_iff.mp ends
        rw [readStream_mono read, Option.map_some, same]
      · obtain ⟨⟨later, own⟩, follows, same⟩ := Option.map_eq_some_iff.mp ends
        cases same
        rw [ih follows]
        rfl

theorem fetchLoop_safe
    (ends : net.fetchLoop transport allowedHostSuffixes maxBytes maxRedirects fuel hop redirects
      current = some (passes, outcome)) :
    ∀ events ∈ passes, net.SafePass allowedHostSuffixes events := by
  induction fuel generalizing hop redirects current passes with
  | zero => cases ends
  | succ fuel ih =>
      rw [fetchLoop] at ends
      have own := @pass_safe net allowedHostSuffixes transport maxRedirects hop redirects current
      split at ends
      · next events error passed =>
          cases ends
          rw [passed] at own
          simpa using own
      · next events body passed =>
          obtain ⟨read, -, same⟩ := Option.map_eq_some_iff.mp ends
          cases same
          rw [passed] at own
          simpa using own
      · next events url passed =>
          obtain ⟨⟨later, final⟩, follows, same⟩ := Option.map_eq_some_iff.mp ends
          cases same
          rw [passed] at own
          exact List.forall_mem_cons.mpr ⟨own, ih follows⟩

theorem fetchLoop_length
    (ends : net.fetchLoop transport allowedHostSuffixes maxBytes maxRedirects fuel hop redirects
      current = some (passes, outcome)) :
    (passes.length : Int) ≤ max (maxRedirects - redirects) 0 + 1 := by
  induction fuel generalizing hop redirects current passes with
  | zero => cases ends
  | succ fuel ih =>
      rw [fetchLoop] at ends
      split at ends
      · cases ends
        simp
      · obtain ⟨read, -, same⟩ := Option.map_eq_some_iff.mp ends
        cases same
        simp
      · next events url followed =>
          have left := pass_follow (congrArg Prod.snd followed)
          obtain ⟨⟨later, final⟩, follows, same⟩ := Option.map_eq_some_iff.mp ends
          cases same
          have rest := ih follows
          rw [List.length_cons]
          omega

theorem fetchLoop_bounded {bytes : List UInt8}
    (ends : net.fetchLoop transport allowedHostSuffixes maxBytes maxRedirects fuel hop redirects
      current = some (passes, .ok bytes)) : (bytes.length : Int) ≤ max maxBytes 0 := by
  induction fuel generalizing hop redirects current passes with
  | zero => cases ends
  | succ fuel ih =>
      rw [fetchLoop] at ends
      split at ends
      · cases ends
      · obtain ⟨read, reads, same⟩ := Option.map_eq_some_iff.mp ends
        cases same
        exact readStream_length reads rfl (le_max_right _ _)
      · obtain ⟨⟨later, final⟩, follows, same⟩ := Option.map_eq_some_iff.mp ends
        cases same
        exact ih follows

theorem Checked.no_request {host : String} {ips : List IpAddress} {checks : List NetEvent}
    (checked : net.Checked hop host ips checks) : checks.countP NetEvent.isRequest = 0 := by
  cases checked with
  | literal own => rfl
  | resolved answered all =>
      rw [List.countP_eq_zero, List.forall_mem_cons, List.forall_mem_map]
      exact ⟨Bool.false_ne_true, fun _ _ => Bool.false_ne_true⟩

theorem SafePass.requests {events : List NetEvent} (safe : net.SafePass allowedHostSuffixes events) :
    events.countP NetEvent.isRequest ≤ 1 := by
  cases safe with
  | silent none =>
      refine (List.countP_eq_zero.mpr fun event member => ?_).le.trans zero_le_one
      cases event with
      | request url => exact absurd trivial (none _ member)
      | _ => exact Bool.false_ne_true
  | requested cleared =>
      rw [List.countP_append, cleared.checked.no_request]
      rfl
  | connected cleared member port =>
      rw [List.countP_append, cleared.checked.no_request]
      rfl

theorem requests_le_length {passes : List (List NetEvent)}
    (safe : ∀ events ∈ passes, net.SafePass allowedHostSuffixes events) :
    passes.flatten.countP NetEvent.isRequest ≤ passes.length := by
  induction passes with
  | nil => exact le_rfl
  | cons events passes ih =>
      obtain ⟨own, rest⟩ := List.forall_mem_cons.mp safe
      rw [List.flatten_cons, List.countP_append, List.length_cons, Nat.add_comm]
      exact Nat.add_le_add (ih rest) own.requests

/-! ### The fetch of a sync -/

end Internet

def partsOf (body : Nat → BodyPart) : (count i : Nat) → List (List UInt8) × Option String
  | 0, _ => ([], none)
  | count + 1, i =>
      match body i with
      | .finished => ([], none)
      | .breaks message => ([], some message)
      | .chunk first rest =>
          ((first :: rest) :: (partsOf body count (i + 1)).1, (partsOf body count (i + 1)).2)

theorem readBody_partsOf {body : Nat → BodyPart} {maxBytes : Int} {fuel i total count : Nat}
    {chunks : List UInt8} {outcome : Except FetchError (List UInt8)} (positive : 0 < count)
    (enough : maxBytes.toNat < count + total)
    (ends : readStream body maxBytes fuel i total chunks = some outcome) :
    (readBody maxBytes (partsOf body count i).2 total (partsOf body count i).1).map (chunks ++ ·) =
      outcome := by
  induction fuel generalizing i total chunks count with
  | zero => cases ends
  | succ fuel ih =>
      obtain ⟨count, rfl⟩ := Nat.exists_eq_succ_of_ne_zero positive.ne'
      rw [readStream] at ends
      rw [partsOf]
      split at ends
      · obtain rfl := Option.some.inj ends
        simp [readBody, Except.map]
      · obtain rfl := Option.some.inj ends
        simp [readBody, Except.map]
      · next first rest _ =>
          dsimp only at ends ⊢
          rw [readBody]
          have grown : (first :: rest).length = rest.length + 1 := List.length_cons
          split at ends
          · next beyond =>
              obtain rfl := Option.some.inj ends
              rw [if_pos (by push_cast at beyond ⊢; exact beyond)]
              rfl
          · next within =>
              have later := @ih (i + 1) (total + (first :: rest).length) count
                (chunks ++ first :: rest)
                (by omega) (by omega) ends
              rw [if_neg (by push_cast at within ⊢; exact within), ← later]
              cases readBody maxBytes (partsOf body count (i + 1)).2
                (total + (first :: rest).length) (partsOf body count (i + 1)).1 with
              | error error => rfl
              | ok bytes => exact congrArg Except.ok (List.append_assoc ..).symm

namespace Internet

def network (net : Internet) (transport : Option AsyncTransport) (allowedHostSuffixes : List String)
    (maxBytes : Int) (join : String → String → String) : Network where
  resolveSafeUrl hop url _ :=
    (net.resolveSafeUrl allowedHostSuffixes hop url).2.map ResolvedSafeURL.scheme
  stream hop url :=
    match (net.resolveSafeUrl allowedHostSuffixes hop url).2 with
    | .error error => .error error.message
    | .ok target =>
        match net.pin target with
        | .error message => .error message
        | .ok pinned =>
            (net.stream transport pinned hop target.originalUrl).2.map fun reply =>
              { status := reply.status, location := reply.location
                chunks := (partsOf reply.body (maxBytes.toNat + 1) 0).1
                breaks := (partsOf reply.body (maxBytes.toNat + 1) 0).2 }
  urljoin := join

variable {net : Internet} {transport : Option AsyncTransport} {allowedHostSuffixes : List String}
  {maxBytes maxRedirects redirects : Int} {fuel hop : Nat} {current : String}
  {passes : List (List NetEvent)} {outcome : Except FetchError (List UInt8)}
  {join : String → String → String}

theorem next_refines (joins : ∀ base url, net.urljoin base url = .ok (join base url))
    (reply : Reply) :
    (if reply.status ∈ redirectStatus then
      match (maxRedirects - redirects).toNat with
      | 0 => .error (.fetchFailed "too_many_redirects")
      | left + 1 =>
          match reply.location.filter fun location => location ≠ "" with
          | none => .error (.fetchFailed "redirect_missing_location")
          | some location =>
              Inference.fetchHttpsBytesBounded
                (net.network transport allowedHostSuffixes maxBytes join) allowedHostSuffixes
                maxBytes left (hop + 1) (join current location)
    else if reply.status < 200 ∨ 300 ≤ reply.status then
      .error (.fetchFailed ("http_" ++ toString reply.status))
    else
      readBody maxBytes (partsOf reply.body (maxBytes.toNat + 1) 0).2 0
        (partsOf reply.body (maxBytes.toNat + 1) 0).1) =
      match net.next maxRedirects redirects current reply with
      | .stop error => .error error
      | .read body =>
          readBody maxBytes (partsOf body (maxBytes.toNat + 1) 0).2 0
            (partsOf body (maxBytes.toNat + 1) 0).1
      | .follow url =>
          Inference.fetchHttpsBytesBounded (net.network transport allowedHostSuffixes maxBytes join)
            allowedHostSuffixes maxBytes (maxRedirects - (redirects + 1)).toNat (hop + 1) url := by
  unfold next
  split
  · split
    · next spent =>
        rw [if_pos (by omega)]
    · next left counted =>
        have same : (maxRedirects - (redirects + 1)).toNat = left := by omega
        rw [if_neg (by omega)]
        cases reply.location.filter fun location => location ≠ "" with
        | none => rfl
        | some location =>
            dsimp only
            rw [joins, same]
  · split <;> rfl

theorem fetch_pass (joins : ∀ base url, net.urljoin base url = .ok (join base url)) :
    Inference.fetchHttpsBytesBounded (net.network transport allowedHostSuffixes maxBytes join)
        allowedHostSuffixes maxBytes (maxRedirects - redirects).toNat hop current =
      match (net.pass transport allowedHostSuffixes maxRedirects hop redirects current).2 with
      | .stop error => .error error
      | .read body =>
          readBody maxBytes (partsOf body (maxBytes.toNat + 1) 0).2 0
            (partsOf body (maxBytes.toNat + 1) 0).1
      | .follow url =>
          Inference.fetchHttpsBytesBounded (net.network transport allowedHostSuffixes maxBytes join)
            allowedHostSuffixes maxBytes (maxRedirects - (redirects + 1)).toNat (hop + 1) url := by
  rw [Inference.fetchHttpsBytesBounded, pass, network]
  dsimp only
  cases net.resolveSafeUrl allowedHostSuffixes hop current with
  | mk checks target =>
      cases target with
      | error error => cases error <;> rfl
      | ok target =>
          dsimp only [Except.map]
          by_cases secure : target.scheme = "https"
          · rw [if_neg (not_not.mpr secure), if_neg (not_not.mpr secure)]
            cases net.pin target with
            | error message => rfl
            | ok pinned =>
                dsimp only
                cases net.stream transport pinned hop target.originalUrl with
                | mk sent reply =>
                    cases reply with
                    | error message => rfl
                    | ok reply => exact next_refines joins reply
          · rw [if_pos secure, if_pos secure]

theorem fetch_refines (joins : ∀ base url, net.urljoin base url = .ok (join base url))
    (ends : net.fetchLoop transport allowedHostSuffixes maxBytes maxRedirects fuel hop redirects
      current = some (passes, outcome)) :
    Inference.fetchHttpsBytesBounded (net.network transport allowedHostSuffixes maxBytes join)
      allowedHostSuffixes maxBytes (maxRedirects - redirects).toNat hop current = outcome := by
  induction fuel generalizing hop redirects current passes with
  | zero => cases ends
  | succ fuel ih =>
      rw [fetchLoop] at ends
      rw [fetch_pass joins]
      split at ends
      · next events error passed =>
          rw [passed]
          cases ends
          rfl
      · next events body passed =>
          rw [passed]
          obtain ⟨own, reads, same⟩ := Option.map_eq_some_iff.mp ends
          cases same
          have read := readBody_partsOf (Nat.succ_pos maxBytes.toNat) (Nat.lt_succ_self _) reads
          dsimp only
          rw [← read]
          cases readBody maxBytes (partsOf body (maxBytes.toNat + 1) 0).2 0
            (partsOf body (maxBytes.toNat + 1) 0).1 <;> rfl
      · next events url passed =>
          rw [passed]
          obtain ⟨⟨later, final⟩, follows, same⟩ := Option.map_eq_some_iff.mp ends
          cases same
          exact ih follows

/-- Whatever servers and DNS answer, the fetch ends with at most one request more than redirects are
allowed, in passes that are safe, and with no more bytes than are allowed. -/
theorem fetch_bounded_confined (net : Internet) (transport : Option AsyncTransport)
    (allowedHostSuffixes : List String) (maxBytes maxRedirects : Int) (url : String) :
    ∃ passes outcome,
      (∀ fuel, maxRedirects.toNat + maxBytes.toNat + 1 < fuel →
        net.fetchHttpsBytesBounded transport allowedHostSuffixes maxBytes maxRedirects fuel url =
          some (passes, outcome)) ∧
      (passes.flatten.countP NetEvent.isRequest : Int) ≤ max maxRedirects 0 + 1 ∧
      (∀ events ∈ passes, net.SafePass allowedHostSuffixes events) ∧
      ∀ bytes, outcome = .ok bytes → (bytes.length : Int) ≤ max maxBytes 0 := by
  obtain ⟨⟨passes, outcome⟩, ends⟩ := @fetchLoop_ends net transport maxBytes maxRedirects 0
    (maxRedirects.toNat + maxBytes.toNat + 2) allowedHostSuffixes 0 url (by simp)
  have safe := fetchLoop_safe ends
  refine ⟨passes, outcome, ?_, ?_, safe, ?_⟩
  · intro fuel enough
    induction fuel, enough using Nat.le_induction with
    | base => exact ends
    | succ fuel _ ih => exact fetchLoop_mono ih
  · have single := requests_le_length safe
    have passed := fetchLoop_length ends
    omega
  · rintro bytes rfl
    exact fetchLoop_bounded ends

private def moved : Internet where
  lower := id
  urlparse url :=
    .ok { scheme := "https", hostname := some "models.dev", port := .ok none, path := url, query := "" }
  urljoin _ url := .ok url
  ipAddress text :=
    if text = "8.8.8.8" then .ok (.v4 { text := "8.8.8.8" }) else .error "not an address"
  getaddrinfo _ _ := .ok ["8.8.8.8"]
  httpxUrl _ := .ok { scheme := "https", host := "models.dev", port := none }
  answer hop _ _ _ :=
    .ok
      { status := if hop = 0 then 302 else 200, location := some "/b"
        body := fun i => if i = 0 then .chunk 91 [93] else .finished }
  ipAddress_text text ip own := by
    split at own
    · obtain rfl := Except.ok.inj own
      rfl
    · cases own

/-- One redirect is followed, and two bytes are read. -/
example : ((moved.fetchHttpsBytesBounded none ["models.dev"] 2 1 5 "/a").map fun (passes, outcome) =>
    (passes.map List.length, outcome.toOption)) = some ([4, 4], some [91, 93]) := by
  decide +kernel

end Internet

end SyndicateClaw.Inference
