import CourierPlatform.Proofs.Responses
import Mathlib.Data.List.TakeWhile

/-! From a registration or a login through its token to the profile of the user. -/
namespace CourierPlatform
open Js Library

/-- What is relied on of `jsonwebtoken`: a token that was signed verifies to its payload, with the seconds
in which it was signed and in which it expires, before that second; and it has no spaces. -/
structure ServerConfig.Tokens (config : ServerConfig) (lifetime : Int) : Prop where
  verify : ∀ payload issuedAt now, config.verify (config.login.sign payload issuedAt) now =
    if now / 1000 < issuedAt / 1000 + lifetime then
      .ok ⟨payload, issuedAt / 1000, issuedAt / 1000 + lifetime⟩
    else .error .expired
  spaceless : ∀ payload issuedAt, ' ' ∉ (config.login.sign payload issuedAt).toList

def ServerConfig.profileResponse (config : ServerConfig) (lifetime : Int) (requestId : String)
    (user : User) (issuedAt now : Int) : HttpResponse :=
  if now / 1000 < issuedAt / 1000 + lifetime then
    .success (some requestId) now 200 (.profile (some
      ⟨⟨user.id, user.email, user.role⟩, issuedAt / 1000, issuedAt / 1000 + lifetime⟩))
  else
    .failure config.traits (some requestId) now
      (unauthorizedError "Authentication token has expired. Please log in again.")

variable {config : ServerConfig} {s t : Server} {l : ServerLabel} {lifetime : Int}

theorem bearerToken_bearer {token : String} (spaceless : ' ' ∉ token.toList) :
    bearerToken (some ("Bearer " ++ token)) = some token := by
  have text : ("Bearer " ++ token).toList = "Bearer ".toList ++ token.toList := String.toList_append
  have whole : token.toList.takeWhile (· ≠ ' ') = token.toList := by
    refine List.takeWhile_eq_self_iff.mpr fun c mem => decide_eq_true ?_
    rintro rfl
    exact spaceless mem
  have starts : "Bearer ".toList.isPrefixOf ("Bearer ".toList ++ token.toList) = true :=
    List.isPrefixOf_iff_prefix.mpr (List.prefix_append _ _)
  have dropped : ("Bearer ".toList ++ token.toList).drop 7 = token.toList := List.drop_left' rfl
  rw [bearerToken, Option.bind_some, text, if_pos starts, dropped, whole, String.ofList_toList]

namespace Server

def Granted (config : ServerConfig) (s : Server) : Prop :=
  ∀ exchange ∈ s.exchanges, ∀ response ∈ exchange.response, ∀ result ∈ response.body.auth?,
    ∃ email, AuthService.Grants config.login.toAuthConfig s.accounts.registrations.users email result

theorem outcome_auth {awaited : Awaited} {statusCode : Nat} {result : AuthResult}
    (sound : s.accounts.Sound config.login)
    (ended : s.outcome? awaited = some (.ok (statusCode, .auth result))) :
    ∃ email,
      AuthService.Grants config.login.toAuthConfig s.accounts.registrations.users email result := by
  cases awaited with
  | task i =>
    obtain ⟨task, -, ended⟩ := Option.bind_eq_some_iff.mp ended
    cases task with
    | createOrder call => cases call <;> cases ended
    | createBulkOrders call => cases call <;> cases ended
    | trackOrder call => cases call <;> cases ended
    | cancelOrder call => cases call <;> cases ended
    | _ => cases ended
  | registration i =>
    obtain ⟨call, here, ended⟩ := Option.bind_eq_some_iff.mp ended
    cases stage : call.stage <;> rw [stage] at ended <;> cases ended
    exact ⟨_, sound.registrations call (List.mem_of_getElem? here) _ stage⟩
  | login i =>
    obtain ⟨call, here, ended⟩ := Option.bind_eq_some_iff.mp ended
    cases stage : call.stage <;> rw [stage] at ended <;> cases ended
    exact ⟨_, (sound.logins call (List.mem_of_getElem? here)).result _ stage⟩
  | findOrder orderId => contradiction
  | authenticate => contradiction

theorem queried_auth {awaited : Awaited} {answer : QueryAnswer} {statusCode : Nat} {result : AuthResult} :
    s.queried config awaited answer ≠ some (.ok (statusCode, .auth result)) := by
  intro ended
  cases awaited with
  | findOrder orderId =>
    cases answer with
    | found trackingEvents =>
      obtain ⟨order, -, -, other, -⟩ := findOrder_ok ended
      contradiction
    | _ => cases ended
  | authenticate => cases answer <;> cases ended
  | _ => cases answer <;> cases ended

theorem ok_of_auth? {requestId : Option String} {outcome : Except Thrown (Nat × ResponseData)}
    {result : AuthResult} (signed : result ∈ (s.reply config requestId outcome).body.auth?) :
    ∃ statusCode, outcome = .ok (statusCode, .auth result) := by
  cases outcome with
  | error err => cases signed
  | ok sent =>
    obtain ⟨statusCode, data⟩ := sent
    cases data <;> cases signed
    exact ⟨statusCode, rfl⟩

theorem Granted.next (h : s.Granted config) (sound : s.accounts.Sound config.login)
    (moves : Moves config s l t) : t.Granted config := by
  have kept := (moves.keeps_accounts sound).1
  intro exchange mem response answered result signed
  rcases moves.replied mem answered with ⟨before, earlier, same⟩ | rfl | ⟨outcome, settles, rfl⟩
  · obtain ⟨email, granted⟩ := h before earlier response same result signed
    exact ⟨email, granted.mono kept.users⟩
  · contradiction
  · have known : ∃ email, AuthService.Grants config.login.toAuthConfig s.accounts.registrations.users
        email result := by
      cases settles with
      | refused err => cases signed
      | profile user => cases signed
      | couriers supportedCouriers => cases signed
      | @queried awaited answer outcome ended =>
        obtain ⟨statusCode, rfl⟩ := ok_of_auth? signed
        exact absurd ended queried_auth
      | @ended awaited outcome ended =>
        obtain ⟨statusCode, rfl⟩ := ok_of_auth? signed
        exact outcome_auth sound ended
    obtain ⟨email, granted⟩ := known
    exact ⟨email, granted.mono kept.users⟩

end Server

/-- The token that a client has been sent, with its registration or with a login, opens the profile of the
stored user for whom it was signed, from then on until it expires, and then it is refused as expired. -/
theorem token_opens_profile {w : World} {k : Nat} {exchange : Exchange} {response : HttpResponse}
    {result : AuthResult} {request : HttpRequest} {body : Json} (tokens : config.Tokens lifetime)
    (reach : (server config).Reaches (fun _ _ => True) (.init w) s)
    (here : s.exchanges[k]? = some exchange) (answered : exchange.response = some response)
    (signed : response.body.auth? = some result)
    (later : (server config).Reaches (fun _ _ => True) s t)
    (bears : request.authorization = some ("Bearer " ++ result.token))
    (parsed : request.body = .ok body)
    (found : route config.env.js request.method request.path = .ok (some .getProfile)) :
    ∃ user issuedAt, t.accounts.registrations.users.find? user.email = some user ∧
      result = AuthService.authResult config.login.toAuthConfig user issuedAt ∧
      ∀ uuid batchId, ∃ t' sent, (server config).next t (.receive request uuid batchId) = some t' ∧
        t'.exchanges = t.exchanges ++ [sent] ∧
        sent.response = some
          (config.profileResponse lifetime (request.requestId uuid) user issuedAt t.now) := by
  have known : s.accounts.Sound config.login ∧ s.Granted config := by
    refine reach.invariant (fun a => a.accounts.Sound config.login ∧ a.Granted config)
      ⟨.init config.login, fun _ mem => absurd mem List.not_mem_nil⟩ ?_
    intro a l b inv _ moved
    have moves := Server.Moves.of_next moved
    exact ⟨(moves.keeps_accounts inv.1).2, inv.2.next inv.1 moves⟩
  have kept : t.accounts.Sound config.login ∧ s.accounts.Keeps t.accounts := by
    refine later.invariant (fun a => a.accounts.Sound config.login ∧ s.accounts.Keeps a.accounts)
      ⟨known.1, .refl _⟩ ?_
    intro a l b inv _ moved
    obtain ⟨keeps, sound⟩ := (Server.Moves.of_next moved).keeps_accounts inv.1
    exact ⟨sound, inv.2.trans keeps⟩
  obtain ⟨email, user, issuedAt, stored, rfl⟩ :=
    known.2 exchange (List.mem_of_getElem? here) response answered result signed
  have named : user.email = config.login.js.toLowerCase email := UniqueTable.key_of_find? stored
  refine ⟨user, issuedAt, named ▸ kept.2.users _ user stored, rfl, fun uuid batchId => ?_⟩
  have verified : authenticate config.verify t.now request.authorization =
      if t.now / 1000 < issuedAt / 1000 + lifetime then
        .ok ⟨⟨user.id, user.email, user.role⟩, issuedAt / 1000, issuedAt / 1000 + lifetime⟩
      else .error (unauthorizedError "Authentication token has expired. Please log in again.") := by
    have bearer := bearerToken_bearer (tokens.spaceless ⟨user.id, user.email, user.role⟩ issuedAt)
    rw [bears, authenticate, AuthService.authResult, bearer]
    by_cases valid : t.now / 1000 < issuedAt / 1000 + lifetime <;> simp [tokens.verify, valid]
  have handled : (server config).next t (.receive request uuid batchId) =
      t.handle config { request, requestId := some (request.requestId uuid) } body batchId
        .getProfile := by
    have method : request.method ≠ "OPTIONS" := by
      intro options
      rw [options] at found
      exact route_options _ _ _ found
    change t.receive config request uuid batchId = _
    rw [Server.receive, if_neg method, parsed]
    simp only [found]
  rw [handled]
  unfold Server.handle ServerConfig.profileResponse
  simp only [verified]
  by_cases valid : t.now / 1000 < issuedAt / 1000 + lifetime
  · simp only [if_pos valid]
    exact ⟨_, _, rfl, rfl, rfl⟩
  · simp only [if_neg valid]
    exact ⟨_, _, rfl, rfl, rfl⟩

theorem productionServer_tokens : productionServer.Tokens tokenLifetime where
  verify payload issuedAt now := by
    rw [productionServer_verify, productionServer_sign, plainVerify_sign]
  spaceless payload issuedAt mem := by
    rw [productionServer_sign, plainSign, String.toList_ofList] at mem
    exact absurd (List.eq_of_mem_replicate mem) (by decide)

theorem token_opens_profile_registered : ∃ (t t' : Server) (token : String) (user : User)
    (issuedAt : Int) (sent : Exchange), t.now = 3600000 ∧
      (server productionServer).next t (.receive (profileOf token) "U-2" "B-2") = some t' ∧
      t'.exchanges = t.exchanges ++ [sent] ∧
      sent.response =
        some (productionServer.profileResponse tokenLifetime "U-2" user issuedAt t.now) := by
  obtain ⟨s, reach, first⟩ := Machine.Reaches.of_run_any (server productionServer) (fun _ _ => True)
    (.init .empty)
    [.receive registerAnn "U-1" "B-1", .accounts (.registrations (.settle 0 .found)),
      .accounts (.registrations (.settle 0 (.salted "salt"))),
      .accounts (.registrations (.settle 0 .hashed)),
      .accounts (.registrations (.settle 0 (.created "1" 0))), .respond 0]
    (fun s => s.now = 0 && s.exchanges[0]?.any fun exchange =>
      exchange.response.any fun response => response.body.auth?.isSome) (by decide)
  obtain ⟨start, sent⟩ := Bool.and_eq_true_iff.mp first
  obtain ⟨exchange, here, replied⟩ := (Option.any_eq_true _ _).mp sent
  obtain ⟨response, answered, authenticated⟩ := (Option.any_eq_true _ _).mp replied
  obtain ⟨result, signed⟩ := Option.isSome_iff_exists.mp authenticated
  let t : Server :=
    { s with platform := ⟨{ s.platform.world with now := s.now + 3600000 }, s.platform.tasks⟩ }
  have later : (server productionServer).Reaches (fun _ _ => True) s t :=
    Machine.Reaches.refl.step (.platform (.tick 3600000)) trivial rfl
  have found : route productionServer.env.js "GET" (["api", "v1", "auth", "me"].map .plain) =
      .ok (some .getProfile) := by
    decide
  have bears : (profileOf result.token).authorization = some ("Bearer " ++ result.token) := rfl
  obtain ⟨user, issuedAt, -, -, opens⟩ :=
    token_opens_profile productionServer_tokens reach here answered signed later bears rfl found
  obtain ⟨t', last, moved, appended, told⟩ := opens "U-2" "B-2"
  have now : t.now = 3600000 := by
    change s.now + 3600000 = 3600000
    rw [of_decide_eq_true start, Int.zero_add]
  exact ⟨t, t', result.token, user, issuedAt, last, now, moved, appended, told⟩

end CourierPlatform
