import SiteConf.Check
import SiteConf.Proofs.Fixable
import SiteConf.Proofs.Numbers

/-!
# Checks and rules agree

Some conditions are looked for twice: by a check of the site, which names the field, and by a rule of the table. The
field tells the check (`Problem.field_eq_iff`) and, for a location, its place (`Problem.field_eq_locationField_iff`);
the locations that repeat an earlier one are those whose key stands before them (`mem_locationProblems`). The checks
report nothing at all where they cannot write the message about the rate limit (`Site.exists_problems_iff`). Main
statement: `Site.finds_iff_reports`.
-/

namespace SiteConf
open Text

namespace Problem

theorem mem_when {b : Bool} {p q : Problem} : p ∈ when b q ↔ b = true ∧ p = q := by
  cases b <;> simp [when]

/-! ### Fields -/

/-- The field of the location at a place. -/
def locationField (i : Nat) (name : String) : String := "locations[" ++ toString i ++ "]." ++ name

theorem toList_locationField (i : Nat) (name : String) :
    (locationField i name).toList = "locations[".toList ++ (Nat.toDigits 10 i ++ ("].".toList ++ name.toList)) := by
  rw [locationField, show toString i = i.repr from rfl, String.toList_append, String.toList_append,
    String.toList_append, Nat.toList_repr, List.append_assoc, List.append_assoc]

theorem locationField_inj {i j : Nat} {a b : String} (h : locationField i a = locationField j b) : i = j ∧ a = b := by
  have hlist := congrArg String.toList h
  rw [toList_locationField, toList_locationField] at hlist
  have hspan := congrArg spanDigits (List.append_cancel_left hlist)
  rw [spanDigits_toDigits rfl, spanDigits_toDigits rfl, Prod.mk.injEq] at hspan
  have hi := congrArg digitsValue hspan.1
  rw [digitsValue_toDigits, digitsValue_toDigits] at hi
  exact ⟨hi, String.toList_injective (List.append_cancel_left hspan.2)⟩

/-- The place of the location that has the problem, and the name of the field there. -/
def location? : Problem → Option (Nat × String)
  | duplicateLocation i _ => some (i, "path")
  | noProxyTarget i _ => some (i, "proxy_pass")
  | noRedirectTarget i _ => some (i, "redirect_url")
  | locationText i _ => some (i, "custom_directives")
  | _ => none

theorem field_of_location? {p : Problem} {i : Nat} {name : String} (h : p.location? = some (i, name)) :
    p.field = locationField i name := by
  have hjoin : ∀ {tail : String}, "]." ++ name = tail → "locations[" ++ toString i ++ tail = locationField i name := by
    rintro _ rfl
    exact String.append_assoc.symm
  cases p <;> cases h <;> exact hjoin (by decide)

theorem toList_field_memberWeight (i : Nat) (address : String) : (memberWeight i address).field.toList =
    "upstream.servers[".toList ++ (toString i ++ "].weight").toList := by
  show ("upstream.servers[" ++ toString i ++ "].weight").toList = _
  rw [String.append_assoc, String.toList_append]

theorem startsWith_location_field (p : Problem) :
    "locations[".toList.isPrefixOf p.field.toList = p.location?.isSome := by
  cases hp : p.location? with
  | some l =>
    rw [field_of_location? hp, toList_locationField]
    exact isPrefixOf_append_self _ _
  | none =>
    cases p with
    | memberWeight i address =>
      rw [toList_field_memberWeight]
      rfl
    | rateLimit rate => exact show "locations[".toList.isPrefixOf "security.rate_limit".toList = false by decide
    | serverText e => exact show "locations[".toList.isPrefixOf "custom_directives".toList = false by decide
    | _ => cases hp <;> rfl

theorem field_eq_locationField_iff {p : Problem} {i : Nat} {name : String} :
    p.field = locationField i name ↔ p.location? = some (i, name) := by
  refine ⟨fun h => ?_, field_of_location?⟩
  have hstart := p.startsWith_location_field
  rw [h, toList_locationField, isPrefixOf_append_self] at hstart
  obtain ⟨⟨j, name'⟩, hp⟩ := Option.isSome_iff_exists.1 hstart.symm
  rw [field_of_location? hp] at h
  obtain ⟨rfl, rfl⟩ := locationField_inj h
  exact hp

/-- The problems that a rule looks for, too, but for those of locations. -/
def shared : List Problem := [noCertificate, noKey, noBackend, plainCredentials, emptyPool]

theorem field_eq_iff {p q : Problem} (hq : q ∈ shared) : p.field = q.field ↔ p = q := by
  refine ⟨fun h => ?_, congrArg field⟩
  -- The fields of locations and of pool members are told from the fixed ones by how they start.
  have hlocation : p.location? = none := by
    rw [← Option.isNone_iff_eq_none, ← Option.isSome_eq_false_iff, ← startsWith_location_field, h]
    fin_cases hq <;> rfl
  have hmember : "upstream.servers[".toList.isPrefixOf q.field.toList = false := by fin_cases hq <;> rfl
  cases p with
  | memberWeight i address =>
    rw [← h, toList_field_memberWeight, isPrefixOf_append_self] at hmember
    cases hmember
  | duplicateLocation | noProxyTarget | noRedirectTarget | locationText => cases hlocation
  | rateLimit rate =>
    have hno : ∀ q ∈ shared, "security.rate_limit" ≠ q.field := by decide
    exact absurd h (hno q hq)
  | serverText e =>
    have hno : ∀ q ∈ shared, "custom_directives" ≠ q.field := by decide
    exact absurd h (hno q hq)
  | _ => fin_cases hq <;> first | rfl | exact absurd h (by decide)

end Problem

/-! ### Problems of locations -/

/-- What tells a location from the others. -/
def Location.key (l : Location) : MatchType × String := (l.matchType, l.path)

/-- A location has its own problems, and one more if its key was seen before. -/
theorem mem_locationProblems {p : Problem} {seen : List (MatchType × String)} {i : Nat} {ls : List Location} :
    p ∈ locationProblems seen i ls ↔ ∃ k l, ls[k]? = some l ∧
      (p ∈ l.problems (i + k) ∨ p = .duplicateLocation (i + k) l.path ∧
        (l.key ∈ seen ∨ ∃ j < k, ∃ l', ls[j]? = some l' ∧ l'.key = l.key)) := by
  -- Each location adds its key to `seen` for those after it, so `seen` is general.
  induction ls generalizing seen i with
  | nil => simp [locationProblems]
  | cons l ls ih =>
    rw [locationProblems, List.mem_append, List.mem_append, Problem.mem_when, ih, List.contains_iff_mem]
    refine Iff.trans ?_ Nat.or_exists_add_one
    refine or_congr ?_ (exists_congr fun k => exists_congr fun l' => ?_)
    · have hnone : ¬∃ j < 0, ∃ l', (l :: ls)[j]? = some l' ∧ l'.key = l.key := by simp
      simp only [List.getElem?_cons_zero, Option.some.injEq, Nat.add_zero, exists_eq_left', hnone, or_false]
      rw [or_comm, and_comm]
      rfl
    · simp only [Nat.exists_lt_succ_left, List.getElem?_cons_zero, List.getElem?_cons_succ, Option.some.injEq,
        exists_eq_left', List.mem_cons, Nat.add_assoc, Nat.add_comm 1]
      rw [or_comm (b := l'.key ∈ seen), or_assoc, eq_comm (b := (l.matchType, l.path))]
      rfl

/-- A redirect location whose URL is blank. -/
def Location.lacksUrl (l : Location) : Bool := l.kind == .redirect && isBlankText l.redirectUrl

theorem Location.mem_problems {p : Problem} {i : Nat} {l : Location} : p ∈ l.problems i ↔
    l.lacksTarget = true ∧ p = .noProxyTarget i l.path ∨ l.lacksUrl = true ∧ p = .noRedirectTarget i l.path ∨
      l.kind = .custom ∧ ∃ e ∈ textErrors l.customDirectives, .locationText i e = p := by
  unfold problems lacksTarget lacksUrl
  cases l.kind <;> simp [Problem.mem_when]

theorem location?_of_mem_locationProblems {p : Problem} {seen : List (MatchType × String)} {i : Nat}
    {ls : List Location} (h : p ∈ locationProblems seen i ls) : p.location? ≠ none := by
  obtain ⟨k, l, -, h | ⟨rfl, -⟩⟩ := mem_locationProblems.1 h
  · obtain ⟨-, rfl⟩ | ⟨-, rfl⟩ | ⟨-, e, -, rfl⟩ := Location.mem_problems.1 h <;> exact Option.some_ne_none _
  · exact Option.some_ne_none _

theorem mem_memberProblems {p : Problem} {i : Nat} {ms : List PoolMember} (h : p ∈ memberProblems i ms) :
    ∃ j address, p = .memberWeight j address := by
  induction ms generalizing i with
  | nil => cases h
  | cons m ms ih =>
    rw [memberProblems, List.mem_append, Problem.mem_when] at h
    obtain ⟨-, rfl⟩ | h := h
    · exact ⟨i, m.address, rfl⟩
    · exact ih h

/-! ### Checks -/

namespace Site
variable {s : Site}

/-- A check of the site reports a field. -/
def Reports (s : Site) (field : String) : Prop := ∃ ps, s.problems = .ok ps ∧ ∃ p ∈ ps, p.field = field

/-- A rule of the table, given by its id, is among the findings on the site. -/
def Finds (s : Site) (id : String) : Prop := ∃ f ∈ (lint ruleTable s).findings, f.ruleId = id

/-- The problems of a site, but for the one of its rate limit. -/
def otherProblems (s : Site) : List Problem :=
  Problem.when (s.ssl.enabled && isBlankText s.ssl.certificatePath) .noCertificate ++
    Problem.when (s.ssl.enabled && isBlankText s.ssl.keyPath) .noKey ++
    Problem.when (s.ssl.enabled && s.ssl.httpRedirect && s.listenPort == 80) .redirectOnOwnPort ++
    Problem.when (s.reverseProxy.enabled && isBlankText s.reverseProxy.backendAddress) .noBackend ++
    Problem.when (s.security.basicAuth && !s.ssl.enabled) .plainCredentials ++
    Problem.when (s.upstream.enabled && s.upstream.servers.isEmpty) .emptyPool ++
    (if s.upstream.enabled then memberProblems 0 s.upstream.servers else []) ++
    locationProblems [] 0 s.locations ++
    (textErrors s.customDirectives).map .serverText

theorem exists_mem_problems_iff (h : ∃ ps, s.problems = .ok ps) :
    ∃ ps, s.problems = .ok ps ∧ ∀ p, (∀ rate, p ≠ .rateLimit rate) → (p ∈ ps ↔ p ∈ s.otherProblems) := by
  obtain ⟨hno, -⟩ | ⟨-, rs, hrate, hrs⟩ := s.security.rateProblems_cases
  · exact absurd (exists_problems_iff.1 h) hno
  · refine ⟨_, by rw [problems, hrate]; rfl, fun p hp => ?_⟩
    have hnot : p ∉ rs := fun h => by
      obtain ⟨rate, rfl⟩ := hrs p h
      exact hp rate rfl
    simp only [otherProblems, List.mem_append, hnot, or_false]

/-- Checks that return report what they report apart from the rate limit. -/
theorem reports_iff (h : ∃ ps, s.problems = .ok ps) {field : String}
    (hfield : ∀ rate, (Problem.rateLimit rate).field ≠ field) :
    s.Reports field ↔ ∃ p ∈ s.otherProblems, p.field = field := by
  obtain ⟨ps, hps, hmem⟩ := exists_mem_problems_iff h
  have hother : ∀ p : Problem, p.field = field → (p ∈ ps ↔ p ∈ s.otherProblems) := fun p hp =>
    hmem p fun rate hrate => hfield rate (hrate ▸ hp)
  constructor
  · rintro ⟨ps', hps', p, hp, hf⟩
    cases hps.symm.trans hps'
    exact ⟨p, (hother p hf).1 hp, hf⟩
  · rintro ⟨p, hp, hf⟩
    exact ⟨ps, hps, p, (hother p hf).2 hp, hf⟩

theorem mem_otherProblems_of_location? {p : Problem} (h : p.location? ≠ none) :
    p ∈ s.otherProblems ↔ ∃ i l, s.locations[i]? = some l ∧ (p ∈ l.problems i ∨ p = .duplicateLocation i l.path ∧
      ∃ j < i, ∃ l', s.locations[j]? = some l' ∧ l'.key = l.key) := by
  have hmember : p ∉ memberProblems 0 s.upstream.servers := fun hp => by
    obtain ⟨j, address, rfl⟩ := mem_memberProblems hp
    exact h rfl
  have hlocation : p ∈ s.otherProblems ↔ p ∈ locationProblems [] 0 s.locations := by
    cases p <;> first | exact absurd rfl h | simp [otherProblems, Problem.mem_when, hmember]
  rw [hlocation, mem_locationProblems]
  simp only [Nat.zero_add, List.not_mem_nil, false_or]

/-- What the site is tested for by a check that a rule shares. -/
def testOf (s : Site) : Problem → Bool
  | .noCertificate => s.ssl.enabled && isBlankText s.ssl.certificatePath
  | .noKey => s.ssl.enabled && isBlankText s.ssl.keyPath
  | .noBackend => s.reverseProxy.enabled && isBlankText s.reverseProxy.backendAddress
  | .plainCredentials => s.security.basicAuth && !s.ssl.enabled
  | .emptyPool => s.upstream.enabled && s.upstream.servers.isEmpty
  | _ => false

theorem mem_otherProblems_of_shared {q : Problem} (hq : q ∈ Problem.shared) :
    q ∈ s.otherProblems ↔ s.testOf q = true := by
  have hlocation : q ∉ locationProblems [] 0 s.locations := fun h => by
    refine location?_of_mem_locationProblems h ?_
    fin_cases hq <;> rfl
  have hmember : q ∉ memberProblems 0 s.upstream.servers := fun h => by
    obtain ⟨j, address, rfl⟩ := mem_memberProblems h
    simp [Problem.shared] at hq
  fin_cases hq <;> simp [otherProblems, Problem.mem_when, testOf, hlocation, hmember]

/-- A check that a rule shares reports its field exactly if its test holds. -/
theorem reports_iff_testOf (h : ∃ ps, s.problems = .ok ps) {q : Problem} (hq : q ∈ Problem.shared) :
    s.Reports q.field ↔ s.testOf q = true := by
  have hrate : ∀ rate, (Problem.rateLimit rate).field ≠ q.field := fun rate hfield => by
    rw [← (Problem.field_eq_iff hq).1 hfield] at hq
    simp [Problem.shared] at hq
  rw [reports_iff h hrate, ← mem_otherProblems_of_shared hq]
  exact ⟨fun ⟨p, hp, hfield⟩ => (Problem.field_eq_iff hq).1 hfield ▸ hp, fun h => ⟨q, h, rfl⟩⟩

/-! ### Checks of locations -/

section
variable {i : Nat}

theorem reports_locationField_iff (hreturns : ∃ ps, s.problems = .ok ps) {name : String} :
    s.Reports (Problem.locationField i name) ↔ ∃ l, s.locations[i]? = some l ∧
      (l.lacksTarget = true ∧ "proxy_pass" = name ∨ l.lacksUrl = true ∧ "redirect_url" = name ∨
      (l.kind = .custom ∧ textErrors l.customDirectives ≠ []) ∧ "custom_directives" = name ∨
      (∃ j < i, ∃ l', s.locations[j]? = some l' ∧ l'.key = l.key) ∧ "path" = name) := by
  have hrate : ∀ rate, (Problem.rateLimit rate).field ≠ Problem.locationField i name := fun rate hfield => by
    cases Problem.field_eq_locationField_iff.1 hfield
  rw [reports_iff hreturns hrate]
  constructor
  · rintro ⟨p, hp, hfield⟩
    rw [Problem.field_eq_locationField_iff] at hfield
    obtain ⟨k, l, hl, hp⟩ := (mem_otherProblems_of_location? (hfield ▸ Option.some_ne_none _)).1 hp
    rw [Location.mem_problems] at hp
    obtain (⟨h, rfl⟩ | ⟨h, rfl⟩ | ⟨h, e, he, rfl⟩) | ⟨rfl, h⟩ := hp <;>
      obtain ⟨rfl, hname⟩ := Prod.mk.inj (Option.some.inj hfield)
    · exact ⟨l, hl, .inl ⟨h, hname⟩⟩
    · exact ⟨l, hl, .inr (.inl ⟨h, hname⟩)⟩
    · exact ⟨l, hl, .inr (.inr (.inl ⟨⟨h, List.ne_nil_of_mem he⟩, hname⟩))⟩
    · exact ⟨l, hl, .inr (.inr (.inr ⟨h, hname⟩))⟩
  · have hreport : ∀ {p : Problem} {l : Location}, p.location? = some (i, name) → s.locations[i]? = some l →
        (p ∈ l.problems i ∨ p = .duplicateLocation i l.path ∧
          ∃ j < i, ∃ l', s.locations[j]? = some l' ∧ l'.key = l.key) →
        ∃ p ∈ s.otherProblems, p.field = Problem.locationField i name :=
      fun {p l} hplace hl hp => ⟨p, (mem_otherProblems_of_location? (hplace ▸ Option.some_ne_none _)).2 ⟨i, l, hl, hp⟩,
        Problem.field_of_location? hplace⟩
    rintro ⟨l, hl, ⟨h, rfl⟩ | ⟨h, rfl⟩ | ⟨⟨h, he⟩, rfl⟩ | ⟨h, rfl⟩⟩
    · exact hreport rfl hl (.inl (Location.mem_problems.2 (.inl ⟨h, rfl⟩)))
    · exact hreport rfl hl (.inl (Location.mem_problems.2 (.inr (.inl ⟨h, rfl⟩))))
    · obtain ⟨e, he⟩ := List.exists_mem_of_ne_nil _ he
      exact hreport rfl hl (.inl (Location.mem_problems.2 (.inr (.inr ⟨h, e, he, rfl⟩))))
    · exact hreport rfl hl (.inr ⟨rfl, h⟩)

end

/-! ### Rules and checks -/

theorem finds_iff_fires {r : Rule Site} (hr : r ∈ ruleTable) : s.Finds r.id ↔ r.fires s = true := by
  refine ⟨fun ⟨f, hf, hid⟩ => ?_, fun h => ⟨r.finding, mem_findings_lint.2 ⟨r, hr, h, rfl⟩, rfl⟩⟩
  obtain ⟨r', hr', hfires, rfl⟩ := mem_findings_lint.1 hf
  rwa [List.inj_on_of_nodup_map ruleTable_ids_nodup hr' hr hid] at hfires

theorem any_iff_reports {p : Location → Bool} {name : String}
    (h : ∀ i, s.Reports (Problem.locationField i name) ↔ ∃ l, s.locations[i]? = some l ∧ p l = true) :
    s.locations.any p = true ↔ ∃ i, s.Reports (Problem.locationField i name) := by
  rw [List.any_eq_true, exists_congr h]
  constructor
  · rintro ⟨l, hl, hp⟩
    obtain ⟨i, hi⟩ := List.mem_iff_getElem?.1 hl
    exact ⟨i, l, hi, hp⟩
  · rintro ⟨i, l, hi, hp⟩
    exact ⟨l, List.mem_of_getElem? hi, hp⟩

/-- The checks return but for a rate limit in use, not positive and with too many digits for a message. Where they
do, each condition that a check and a rule look for is reported by both or by neither, and the path of a location is
reported exactly if a location before it has the same path and the same kind of match. -/
theorem finds_iff_reports (s : Site) :
    ((∃ ps, s.problems = .ok ps) ↔
      (s.security.rateLimiting = true → s.security.rateLimit ≤ 0 → FewDigits s.security.rateLimit)) ∧
    ((∃ ps, s.problems = .ok ps) →
      (s.Finds "security-ssl-enabled-missing-certs" ↔ s.Reports "ssl.certificate_path" ∨ s.Reports "ssl.key_path") ∧
      (s.Finds "correctness-proxy-enabled-without-backend" ↔ s.Reports "reverse_proxy.backend_address") ∧
      (s.Finds "security-basic-auth-no-ssl" ↔ s.Reports "security.basic_auth") ∧
      (s.Finds "correctness-upstream-without-servers" ↔ s.Reports "upstream.servers") ∧
      (s.Finds "correctness-proxy-location-without-target" ↔
        ∃ i, s.Reports (Problem.locationField i "proxy_pass")) ∧
      (s.Finds "correctness-redirect-without-target" ↔ ∃ i, s.Reports (Problem.locationField i "redirect_url")) ∧
      ∀ i, s.Reports (Problem.locationField i "path") ↔ ∃ l, s.locations[i]? = some l ∧
        ∃ j < i, ∃ l', s.locations[j]? = some l' ∧ l'.matchType = l.matchType ∧ l'.path = l.path) := by
  refine ⟨exists_problems_iff, fun hreturns => ?_⟩
  have hfires : ∀ r ∈ ruleTable, (s.Finds r.id ↔ r.fires s = true) := fun r => finds_iff_fires
  have htest : ∀ q ∈ Problem.shared, (s.Reports q.field ↔ s.testOf q = true) := fun q => reports_iff_testOf hreturns
  simp only [ruleTable, List.forall_mem_cons] at hfires
  simp only [Problem.shared, List.forall_mem_cons] at htest
  obtain ⟨-, -, -, hcertificate, -, -, hbackend, -, -, -, -, -, -, hcredentials, -, -, -, -, -, -, -, -, hpool, htarget,
    hurl, -⟩ := hfires
  obtain ⟨hc, hk, hb, ha, hp, -⟩ := htest
  refine ⟨?_, hbackend.trans hb.symm, hcredentials.trans ha.symm, hpool.trans hp.symm, ?_, ?_, fun i => ?_⟩
  · refine hcertificate.trans (Iff.trans ?_ (or_congr hc hk).symm)
    show (s.ssl.enabled && (isBlankText s.ssl.certificatePath || isBlankText s.ssl.keyPath)) = true ↔ _
    rw [Bool.and_or_distrib_left, Bool.or_eq_true]
    rfl
  · exact htarget.trans (any_iff_reports fun i => by simp [reports_locationField_iff hreturns])
  · exact hurl.trans (any_iff_reports fun i => by simp [reports_locationField_iff hreturns, Location.lacksUrl])
  · simp [reports_locationField_iff hreturns, Location.key]

end Site
end SiteConf
