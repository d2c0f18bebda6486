import SiteConf.Render.Server
import SiteConf.Severity

/-!
# Checks

What the text of a site will get wrong. The checks never stop a site from being written, but for a
rate limit of so many digits that there is no message about it.
-/

namespace SiteConf
open Text

/-- A structural problem of a site. Locations and pool members are named by their place, from 0. -/
inductive Problem where
  | noCertificate
  | noKey
  | redirectOnOwnPort
  | noBackend
  | plainCredentials
  /-- The rate limit, as it is written, is not positive. -/
  | rateLimit (rate : String)
  | emptyPool
  | memberWeight (place : Nat) (address : String)
  | duplicateLocation (place : Nat) (path : String)
  | noProxyTarget (place : Nat) (path : String)
  | noRedirectTarget (place : Nat) (path : String)
  | locationText (place : Nat) (error : SyntaxError)
  | serverText (error : SyntaxError)
  deriving DecidableEq, Repr

namespace Problem

/-- The field that has the problem. -/
def field : Problem → String
  | noCertificate => "ssl.certificate_path"
  | noKey => "ssl.key_path"
  | redirectOnOwnPort => "ssl.http_redirect"
  | noBackend => "reverse_proxy.backend_address"
  | plainCredentials => "security.basic_auth"
  | rateLimit _ => "security.rate_limit"
  | emptyPool => "upstream.servers"
  | memberWeight i _ => "upstream.servers[" ++ toString i ++ "].weight"
  | duplicateLocation i _ => "locations[" ++ toString i ++ "].path"
  | noProxyTarget i _ => "locations[" ++ toString i ++ "].proxy_pass"
  | noRedirectTarget i _ => "locations[" ++ toString i ++ "].redirect_url"
  | locationText i _ => "locations[" ++ toString i ++ "].custom_directives"
  | serverText _ => "custom_directives"

def message : Problem → String
  | noCertificate => "SSL is enabled but no certificate path is set. A placeholder path is used."
  | noKey => "SSL is enabled but no key path is set. A placeholder path is used."
  | redirectOnOwnPort =>
    "The HTTP to HTTPS redirect block and the main server both listen on port 80."
  | noBackend => "Reverse proxy is enabled but no backend address is set."
  | plainCredentials => "Basic authentication without SSL sends credentials in plain text."
  | rateLimit rate => "Rate limit must be positive, got " ++ rate ++ ". 10r/s is used."
  | emptyPool => "Upstream is enabled but has no servers. The upstream block is not generated."
  | memberWeight _ address => "Weight of " ++ address ++ " must be at least 1."
  | duplicateLocation _ path => "Duplicate location \"" ++ path ++ "\"."
  | noProxyTarget _ path => "Proxy location \"" ++ path ++ "\" has no target."
  | noRedirectTarget _ path => "Redirect location \"" ++ path ++ "\" has no target URL."
  | locationText _ e => "Custom directives: " ++ e.message
  | serverText e => "Custom directives: " ++ e.message

def severity : Problem → Severity
  | noCertificate | noKey | noBackend | emptyPool | duplicateLocation _ _ => .error
  | _ => .warning

/-- `p` if `b`. -/
def when (b : Bool) (p : Problem) : List Problem := if b then [p] else []

end Problem

open Problem

/-- The location has a target that is not blank, if its kind needs one, and text that parses. -/
def Location.problems (i : Nat) (l : Location) : List Problem :=
  match l.kind with
  | .proxy => when (isBlankText l.proxyPass) (.noProxyTarget i l.path)
  | .redirect => when (isBlankText l.redirectUrl) (.noRedirectTarget i l.path)
  | .custom => (textErrors l.customDirectives).map (.locationText i)
  | .files => []

/-- The problems of locations from place `i` on, after locations with the keys `seen`. -/
def locationProblems (seen : List (MatchType × String)) (i : Nat) :
    List Location → List Problem
  | [] => []
  | l :: ls =>
    when (seen.contains (l.matchType, l.path)) (.duplicateLocation i l.path) ++ l.problems i ++
      locationProblems ((l.matchType, l.path) :: seen) (i + 1) ls

/-- The members with a weight below 1, from place `i` on. -/
def memberProblems (i : Nat) : List PoolMember → List Problem
  | [] => []
  | m :: ms => when (m.weight < 1) (.memberWeight i m.address) ++ memberProblems (i + 1) ms

/-- The rate limit is positive if it is in use. -/
def Security.rateProblems (s : Security) : Except NumberFault (List Problem) :=
  if s.rateLimiting && decide (s.rateLimit ≤ 0) then do
    return [.rateLimit (← writeNumber s.rateLimit)]
  else .ok []

/-- All problems of a site, in a fixed order. -/
def Site.problems (s : Site) : Except NumberFault (List Problem) := do
  let rateProblems ← s.security.rateProblems
  return when (s.ssl.enabled && isBlankText s.ssl.certificatePath) .noCertificate ++
    when (s.ssl.enabled && isBlankText s.ssl.keyPath) .noKey ++
    when (s.ssl.enabled && s.ssl.httpRedirect && s.listenPort == 80) .redirectOnOwnPort ++
    when (s.reverseProxy.enabled && isBlankText s.reverseProxy.backendAddress) .noBackend ++
    when (s.security.basicAuth && !s.ssl.enabled) .plainCredentials ++
    rateProblems ++
    when (s.upstream.enabled && s.upstream.servers.isEmpty) .emptyPool ++
    (if s.upstream.enabled then memberProblems 0 s.upstream.servers else []) ++
    locationProblems [] 0 s.locations ++
    (textErrors s.customDirectives).map .serverText

/-- Writes the text of a site, with its problems. -/
def Site.generate (s : Site) : Except NumberFault (String × List Problem) := do
  let problems ← s.problems
  return (← s.write, problems)

/-! ### Where checks return -/

/-- There is no message about a rate limit of too many digits. -/
theorem Security.rateProblems_cases (s : Security) :
    (¬(s.rateLimiting = true → s.rateLimit ≤ 0 → FewDigits s.rateLimit) ∧ s.rateProblems = .error .unwritable) ∨
    ((s.rateLimiting = true → s.rateLimit ≤ 0 → FewDigits s.rateLimit) ∧
      ∃ ps, s.rateProblems = .ok ps ∧ ∀ p ∈ ps, ∃ rate, p = .rateLimit rate) := by
  unfold rateProblems
  split
  · next h =>
    rw [Bool.and_eq_true, decide_eq_true_eq] at h
    by_cases hfew : FewDigits s.rateLimit
    · refine .inr ⟨fun _ _ => hfew, _, by rw [writeNumber_eq_ok hfew]; rfl, fun p hp => ?_⟩
      exact ⟨_, List.mem_singleton.1 hp⟩
    · exact .inl ⟨fun hall => hfew (hall h.1 h.2), by rw [writeNumber, if_neg hfew]; rfl⟩
  · next h =>
    rw [Bool.and_eq_true, decide_eq_true_eq] at h
    exact .inr ⟨fun hon hlow => absurd ⟨hon, hlow⟩ h, [], rfl, fun p hp => by cases hp⟩

theorem Site.exists_problems_iff {s : Site} : (∃ ps, s.problems = .ok ps) ↔
    (s.security.rateLimiting = true → s.security.rateLimit ≤ 0 → FewDigits s.security.rateLimit) := by
  obtain ⟨hno, hrate⟩ | ⟨hshown, ps, hrate, -⟩ := s.security.rateProblems_cases
  · rw [problems, hrate]
    exact ⟨(fun ⟨ps, h⟩ => by cases h), fun h => absurd h hno⟩
  · rw [problems, hrate]
    exact ⟨fun _ => hshown, fun _ => ⟨_, rfl⟩⟩

/-- A site is written if the numbers in the text can be, and that in a message. -/
theorem Site.exists_generate_iff {s : Site} : (∃ ps, s.generate = .ok (s.render, ps)) ↔
    (∀ n ∈ s.writtenIntegers, FewDigits n) ∧
      (s.security.rateLimiting = true → s.security.rateLimit ≤ 0 → FewDigits s.security.rateLimit) := by
  rw [← exists_problems_iff]
  unfold generate write
  constructor
  · rintro ⟨ps, h⟩
    cases hps : s.problems with
    | error f =>
      rw [hps] at h
      cases h
    | ok ps' =>
      rw [hps] at h
      by_cases hfew : ∀ n ∈ s.writtenIntegers, FewDigits n
      · exact ⟨hfew, ps', rfl⟩
      · rw [if_neg hfew] at h
        cases h
  · rintro ⟨hfew, ps, hps⟩
    rw [hps, if_pos hfew]
    exact ⟨ps, rfl⟩

end SiteConf
