import ScraperProject.Orchestration.WorkerHistory

/-!
Contract: the hosts that a fetch of the fixture reaches.

Owns `urllib.request.urlopen` as a chain of requests, the network that answers them,
and the exact condition on the URL and the answers under which a fetch stays on the local
fixture hosts: the host that is checked is not always the one that a request for the
configured URL goes to, and the redirects from it are not checked at all.

A request goes to the name that `http.client` reads from its URL, in lower case, whether
or not the name resolves and anybody answers. Does not own that resolution, proxies, nor
redirects that are not to an `http` or `https` URL in a `Location` header: the `URI`
header and `ftp` are left out.
-/

namespace ScraperProject.Orchestration

open Foundation
open Database
open Contracts

/-! ## Requests -/

/-- What a server answers: the status, the URL that `HTTPRedirectHandler` makes of the
`Location` header (joined to the URL of the request and quoted), and the outcome of
reading, decoding and parsing the body. -/
structure HttpResponse where
  status : Int
  location : Option String
  body : Except PyError Json

/-- The answers that the contacted servers still give, and the hosts to which a request
was sent so far. -/
structure Network where
  responses : List HttpResponse
  contacted : List String

section Requests

variable (library : StandardLibrary)

/-- `Request`: the scheme of an unwrapped URL and what follows it. A URL that cannot be
split, and one without a scheme, are a `ValueError`. -/
def requestParts (url : List Char) : Option (List Char × List Char) :=
  (Text.urlsplit library.netlocRefused url).bind fun _ => Text.splitType (Text.splitTag url)

/-- The host that `HTTPHandler` and `HTTPConnection` send a request for the URL to: what
stands in its network location before the last colon, user information included. -/
@[irreducible] def requestHost (url : String) : Except PyError String :=
  match requestParts library (Text.unwrap url.toList) with
  | none => .error .invalidUrl
  | some (scheme, rest) =>
      if scheme ≠ "http".toList ∧ scheme ≠ "https".toList then .error .osError
      else
        match Text.splitHost rest with
        | none => .error .osError
        | some (netloc, selector) =>
            if netloc.isEmpty then .error .osError
            else
              match Text.getHostPort library.isInteger (Text.unquote netloc) with
              | none => .error .httpException
              | some host =>
                  if Text.requestRefused (Text.unquote netloc) host selector then
                    .error .httpException
                  else .ok (String.ofList (Text.lower host))

/-- The statuses that `HTTPRedirectHandler` follows. -/
def redirectStatuses : List Int := [301, 302, 303, 307, 308]

/-- `max_repeats` and `max_redirections`. -/
def redirectLimitReached (visited : List String) (target : String) : Bool :=
  4 ≤ visited.count target || 10 ≤ visited.eraseDups.length

/-- `HTTPRedirectHandler`: the URL that a response redirects to, after the URLs that were
visited by redirects. -/
def redirectTarget (visited : List String) (response : HttpResponse) : Except PyError String :=
  match response.location.filter fun _ => redirectStatuses.contains response.status with
  | none => .error .osError
  | some target =>
      match Text.urlsplit library.netlocRefused target.toList with
      | none => .error .invalidUrl
      | some parsed =>
          if (parsed.scheme ≠ "http".toList ∧ parsed.scheme ≠ "https".toList) ∨
              redirectLimitReached visited target = true then .error .osError
          else .ok target

/-- `HTTPErrorProcessor`: other responses are redirects or errors. -/
def HttpResponse.isSuccess (response : HttpResponse) : Bool :=
  200 ≤ response.status && response.status < 300

/-- A request for the URL and what its answer leads to. A request that nobody answers
raises. -/
def openFrom : List HttpResponse → List String → String → List String →
    Except PyError (Int × Except PyError Json) × Network
  | [], _, url, contacted =>
      match requestHost library url with
      | .error raised => (.error raised, ⟨[], contacted⟩)
      | .ok host => (.error .osError, ⟨[], contacted ++ [host]⟩)
  | response :: rest, visited, url, contacted =>
      match requestHost library url with
      | .error raised => (.error raised, ⟨response :: rest, contacted⟩)
      | .ok host =>
          if response.isSuccess then
            (.ok (response.status, response.body), ⟨rest, contacted ++ [host]⟩)
          else
            match redirectTarget library visited response with
            | .error raised => (.error raised, ⟨rest, contacted ++ [host]⟩)
            | .ok target => openFrom rest (target :: visited) target (contacted ++ [host])

/-- `urlopen`. -/
def urlopen (url : String) (network : Network) :
    Except PyError (Int × Except PyError Json) × Network :=
  openFrom library network.responses [] url network.contacted

/-- A command of the worker, where the network answers its requests. -/
def performOnNetwork (environment : Environment) :
    (command : Command) → World × Network → Except PyError (Reply command) × (World × Network)
  | .openUrl url, (world, network) =>
      let (outcome, later) := urlopen library url network
      (outcome, (world, later))
  | command, (world, network) =>
      let (outcome, later) := performCommand library environment command world
      (outcome, (later, network))

/-! ## The hosts of a chain of requests -/

/-- No redirect that is followed leads off the local hosts. -/
def StaysLocal : List HttpResponse → List String → Prop
  | [], _ => True
  | response :: rest, visited =>
      response.isSuccess = false → ∀ target,
        redirectTarget library visited response = .ok target → ∀ host,
          requestHost library target = .ok host →
            host ∈ localFixtureHosts ∧ StaysLocal rest (target :: visited)

variable {library}

theorem forall_eq_ok {value : String} {holds : String → Prop} :
    (∀ other, (Except.ok value : Except PyError String) = .ok other → holds other) ↔
      holds value := by
  simp only [Except.ok.injEq, forall_eq']

theorem forall_mem_append_singleton {items : List String} {item : String}
    {holds : String → Prop} :
    (∀ other ∈ items ++ [item], holds other) ↔ (∀ other ∈ items, holds other) ∧ holds item := by
  rw [List.forall_mem_append, List.forall_mem_singleton]

/-- A chain of requests stays on the local hosts exactly when its first URL is local and no
redirect leads off. -/
theorem contacted_of_openFrom (responses : List HttpResponse) (visited : List String)
    (url : String) (contacted : List String) :
    (∀ host ∈ (openFrom library responses visited url contacted).2.contacted,
        host ∈ localFixtureHosts) ↔
      (∀ host ∈ contacted, host ∈ localFixtureHosts) ∧
        ∀ host, requestHost library url = .ok host →
          host ∈ localFixtureHosts ∧ StaysLocal library responses visited := by
  induction responses generalizing visited url contacted with
  | nil =>
      unfold openFrom
      cases requestHost library url with
      | error raised => exact ⟨fun isLocal => ⟨isLocal, nofun⟩, And.left⟩
      | ok host =>
          rw [forall_eq_ok, StaysLocal, and_true]
          exact forall_mem_append_singleton
  | cons response rest inductionHypothesis =>
      unfold openFrom
      cases requestHost library url with
      | error raised => exact ⟨fun isLocal => ⟨isLocal, nofun⟩, And.left⟩
      | ok host =>
          rw [forall_eq_ok, StaysLocal, ← and_assoc, ← forall_mem_append_singleton]
          dsimp only
          cases response.isSuccess with
          | true =>
              rw [if_pos rfl]
              exact ⟨fun isLocal => ⟨isLocal, nofun⟩, And.left⟩
          | false =>
              rw [if_neg Bool.false_ne_true]
              cases redirectTarget library visited response with
              | error raised => exact ⟨fun isLocal => ⟨isLocal, nofun⟩, And.left⟩
              | ok target =>
                  rw [forall_eq_ok, imp_iff_right rfl]
                  exact inductionHypothesis _ _ _

end Requests

/-- The hosts that a fetch of the fixture contacts. -/
def contactedHosts (library : StandardLibrary) (fixtureUrl : String)
    (environments : Nat → Environment) (world : World) (responses : List HttpResponse) :
    List String :=
  ((fetchFixture library fixtureUrl).execute (performOnNetwork library) environments
    (world, ⟨responses, []⟩)).2.2.contacted

/-- An accepted URL is opened once. -/
theorem contactedHosts_of_checked {library : StandardLibrary} {fixtureUrl : String}
    (checked : requireLocalFixture library fixtureUrl = .ok ())
    (environments : Nat → Environment) (world : World) (responses : List HttpResponse) :
    contactedHosts library fixtureUrl environments world responses =
      (openFrom library responses [] fixtureUrl []).2.contacted := by
  unfold contactedHosts fetchFixture
  rw [checked]
  show (Program.execute (performOnNetwork library)
    (Program.ofExcept (fixtureUnavailable
      ((openFrom library responses [] fixtureUrl []).1 >>= readResponse) >>= requireSourcePayload))
    (fun index => environments (index + 1))
    (world, (openFrom library responses [] fixtureUrl []).2)).2.2.contacted = _
  cases fixtureUnavailable
      ((openFrom library responses [] fixtureUrl []).1 >>= readResponse) >>=
        requireSourcePayload with
  | error raised => rfl
  | ok payload => rfl

/-- A fetch of the fixture stays on the local hosts exactly when its URL is refused by the
check, or nothing can be sent to it, or the request for it goes to a local host and no
redirect that is followed leads off. -/
theorem contacted_local_iff (library : StandardLibrary) (fixtureUrl : String)
    (environments : Nat → Environment) (world : World) (responses : List HttpResponse) :
    (∀ host ∈ contactedHosts library fixtureUrl environments world responses,
        host ∈ localFixtureHosts) ↔
      (requireLocalFixture library fixtureUrl = .ok () →
        ∀ host, requestHost library fixtureUrl = .ok host →
          host ∈ localFixtureHosts ∧ StaysLocal library responses []) := by
  cases checked : requireLocalFixture library fixtureUrl with
  | error raised =>
      have noHost : contactedHosts library fixtureUrl environments world responses = [] := by
        unfold contactedHosts fetchFixture
        rw [checked]
        rfl
      rw [noHost]
      exact iff_of_true (List.forall_mem_nil _) nofun
  | ok _ =>
      rw [contactedHosts_of_checked checked, contacted_of_openFrom, imp_iff_right rfl]
      exact and_iff_right (List.forall_mem_nil _)

/-- The check reads the host up to the first colon, the connection up to the last one. -/
example : requireLocalFixture sampleLibrary "http://localhost:x.example.com:80/listing.json" =
      .ok () ∧
    contactedHosts sampleLibrary "http://localhost:x.example.com:80/listing.json"
      (sampleEnvironment []) World.empty [] = ["localhost:x.example.com"] := by
  decide +kernel

/-- The fixture server answers with a redirect to another host. -/
def redirecting : HttpResponse where
  status := 302
  location := some "http://example.com/listing.json"
  body := .error .osError

/-- The redirect is followed. -/
theorem redirect_leaves_local_hosts :
    ¬ ∀ host ∈ contactedHosts sampleLibrary "http://localhost:8080/listing.json"
        (sampleEnvironment []) World.empty [redirecting], host ∈ localFixtureHosts := by
  have contacted : contactedHosts sampleLibrary "http://localhost:8080/listing.json"
      (sampleEnvironment []) World.empty [redirecting] = ["localhost", "example.com"] := by
    decide +kernel
  rw [contacted]
  decide

end ScraperProject.Orchestration
