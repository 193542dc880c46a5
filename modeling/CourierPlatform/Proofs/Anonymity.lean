import CourierPlatform.Spec.ServerRuns

/-! Of the routes only the profile asks for a token. What the others do, to the tables, at the couriers and
in the responses, is the same whatever tokens the clients send. -/
namespace CourierPlatform
open Js Library

def HttpRequest.anonymous (request : HttpRequest) : HttpRequest := { request with authorization := none }

def Exchange.anonymous (exchange : Exchange) : Exchange :=
  { exchange with request := exchange.request.anonymous, user := none }

def Server.anonymous (s : Server) : Server := { s with exchanges := s.exchanges.map Exchange.anonymous }

def ServerLabel.anonymous : ServerLabel → ServerLabel
  | receive request uuid batchId => .receive request.anonymous uuid batchId
  | l => l

def ServerLabel.asksProfile (js : JsText) : ServerLabel → Bool
  | receive request _ _ => route js request.method request.path = .ok (some .getProfile)
  | _ => false

/-- What comes of a run: the tables with the calls in flight, and the responses. -/
def Server.visible (s : Server) : State × Accounts × List (Option HttpResponse) :=
  (s.platform, s.accounts, s.exchanges.map Exchange.response)

section
variable {config : ServerConfig} {s : Server} (exchange : Exchange) {body : Json}

theorem Server.visible_anonymous (s : Server) : s.anonymous.visible = s.visible := by
  have same : Exchange.response ∘ Exchange.anonymous = Exchange.response := rfl
  simp only [visible, anonymous, List.map_map, same]

theorem ServerLabel.asksProfile_anonymous (js : JsText) (l : ServerLabel) :
    l.anonymous.asksProfile js = l.asksProfile js := by
  cases l <;> rfl

namespace Server

theorem answer_anonymous (outcome : Except Thrown (Nat × ResponseData)) :
    (s.answer config exchange outcome).anonymous =
      s.anonymous.answer config exchange.anonymous outcome := by
  simp only [answer, anonymous, List.map_append, List.map_cons, List.map_nil]
  rfl

theorem await_anonymous (awaited : Awaited) :
    (s.await exchange awaited).anonymous = s.anonymous.await exchange.anonymous awaited := by
  simp only [await, anonymous, List.map_append, List.map_cons, List.map_nil]
  rfl

theorem callService_anonymous (call : Request) :
    (s.callService config exchange call).map anonymous =
      s.anonymous.callService config exchange.anonymous call := by
  simp only [callService, Option.map_map]
  refine Option.map_congr fun platform _ => ?_
  simp only [Function.comp_apply, await, anonymous, List.map_append, List.map_cons, List.map_nil]
  rfl

theorem callRegister_anonymous (data : RegisterRequest) :
    (s.callRegister config exchange data).map anonymous =
      s.anonymous.callRegister config exchange.anonymous data := by
  simp only [callRegister, Option.map_map]
  refine Option.map_congr fun accounts _ => ?_
  simp only [Function.comp_apply, await, anonymous, List.map_append, List.map_cons, List.map_nil]
  rfl

theorem callLogin_anonymous (data : LoginRequest) :
    (s.callLogin config exchange data).map anonymous =
      s.anonymous.callLogin config exchange.anonymous data := by
  simp only [callLogin, Option.map_map]
  refine Option.map_congr fun accounts _ => ?_
  simp only [Function.comp_apply, await, anonymous, List.map_append, List.map_cons, List.map_nil]
  rfl

theorem validated_anonymous {α : Type} (validateFn : ValidateFunction α)
    (handler handler' : α → Option Server)
    (same : ∀ data, (handler data).map anonymous = handler' data) :
    (s.validated config validateFn exchange body handler).map anonymous =
      s.anonymous.validated config validateFn exchange.anonymous body handler' := by
  unfold validated
  cases validateData validateFn body with
  | ok data => exact same data
  | error err => exact congrArg some (answer_anonymous _ _)

theorem handle_anonymous (batchId : String) {matched : Route} (other : matched ≠ .getProfile) :
    (s.handle config exchange body batchId matched).map anonymous =
      s.anonymous.handle config exchange.anonymous body batchId matched := by
  cases matched with
  | createOrder =>
    exact validated_anonymous _ _ _ _ fun data => callService_anonymous _ (.createOrder data)
  | bulkCreateOrders =>
    exact validated_anonymous _ _ _ _ fun data => callService_anonymous _ (.createBulkOrders data batchId)
  | trackOrder orderId => exact callService_anonymous _ (.trackOrder orderId)
  | cancelOrder orderId =>
    exact validated_anonymous _ _ _ _ fun data => callService_anonymous _ (.cancelOrder orderId data)
  | getOrderById orderId => exact congrArg some (await_anonymous _ _)
  | register => exact validated_anonymous _ _ _ _ (callRegister_anonymous exchange)
  | login => exact validated_anonymous _ _ _ _ (callLogin_anonymous exchange)
  | getProfile => exact absurd rfl other
  | listSupportedCouriers => exact congrArg some (answer_anonymous _ _)
  | healthCheck => exact congrArg some (await_anonymous _ _)

theorem send_anonymous (k : Nat) (outcome : Awaited → Option (Except Thrown (Nat × ResponseData))) :
    (s.send config k outcome).map anonymous = s.anonymous.send config k outcome := by
  have there : s.anonymous.exchanges[k]? = s.exchanges[k]?.map Exchange.anonymous := List.getElem?_map
  unfold send
  rw [there]
  cases s.exchanges[k]? with
  | none => rfl
  | some exchange =>
    obtain ⟨request, requestId, user, awaited, response⟩ := exchange
    cases awaited with
    | none => rfl
    | some awaited =>
      cases response with
      | some response => rfl
      | none =>
        simp only [Option.map_some, Exchange.anonymous, Option.map_map]
        refine Option.map_congr fun result _ => ?_
        simp only [Function.comp_apply, anonymous, List.map_set]
        rfl

theorem receive_anonymous {request : HttpRequest}
    (other : route config.env.js request.method request.path ≠ .ok (some .getProfile))
    (uuid batchId : String) : (s.receive config request uuid batchId).map anonymous =
      s.anonymous.receive config request.anonymous uuid batchId := by
  have sameMethod : request.anonymous.method = request.method := rfl
  have sameBody : request.anonymous.body = request.body := rfl
  have samePath : request.anonymous.path = request.path := rfl
  rw [receive, receive, sameMethod, sameBody, samePath]
  split
  next => simp only [Option.map_some, anonymous, List.map_append, List.map_cons, List.map_nil]; rfl
  next =>
    cases request.body with
    | error err => exact congrArg some (answer_anonymous { request } _)
    | ok body =>
      let exchange : Exchange := { request, requestId := some (request.requestId uuid) }
      dsimp only
      cases found : route config.env.js request.method request.path with
      | error err => exact congrArg some (answer_anonymous exchange _)
      | ok matched =>
        cases matched with
        | none => exact congrArg some (answer_anonymous exchange _)
        | some matched =>
          refine handle_anonymous exchange batchId ?_
          rintro rfl
          exact other found

theorem next_anonymous {l : ServerLabel} (other : l.asksProfile config.env.js = false) :
    (s.next config l).map anonymous = s.anonymous.next config l.anonymous := by
  cases l with
  | receive request uuid batchId =>
    exact receive_anonymous (by simpa [ServerLabel.asksProfile] using other) uuid batchId
  | query k answer => exact send_anonymous k _
  | respond k => exact send_anonymous k _
  | platform l =>
    simp only [ServerLabel.anonymous, next]
    split
    · simp only [Option.map_map]
      rfl
    · rfl
  | accounts l =>
    simp only [ServerLabel.anonymous, next]
    split
    · simp only [Option.map_map]
      rfl
    · rfl

end Server

/-- Two scripts that differ in the tokens of their requests only, none of which is for the profile, lead to
the same tables, calls and responses. -/
theorem tokens_do_not_interfere {script script' : List ServerLabel}
    (same : script.map ServerLabel.anonymous = script'.map ServerLabel.anonymous)
    (other : ∀ l ∈ script, l.asksProfile config.env.js = false) :
    ((server config).run (fun _ _ => True) s script).map Server.visible =
      ((server config).run (fun _ _ => True) s script').map Server.visible := by
  have other' : ∀ l ∈ script', l.asksProfile config.env.js = false := by
    intro l mem
    have image : l.anonymous ∈ script.map ServerLabel.anonymous :=
      same ▸ List.mem_map.mpr ⟨l, mem, rfl⟩
    obtain ⟨k, there, paired⟩ := List.mem_map.mp image
    rw [← ServerLabel.asksProfile_anonymous, ← paired, ServerLabel.asksProfile_anonymous]
    exact other k there
  have erased (script : List ServerLabel) (other : ∀ l ∈ script, l.asksProfile config.env.js = false) :
      ((server config).run (fun _ _ => True) s script).map Server.visible =
        ((server config).run (fun _ _ => True) s.anonymous
          (script.map ServerLabel.anonymous)).map Server.visible := by
    have commutes : ((server config).run (fun _ _ => True) s script).map Server.anonymous =
        (server config).run (fun _ _ => True) s.anonymous (script.map ServerLabel.anonymous) :=
      Machine.run_map Server.anonymous ServerLabel.anonymous fun s l mem =>
        Server.next_anonymous (other l mem)
    rw [← commutes, Option.map_map]
    exact Option.map_congr fun t _ => (Server.visible_anonymous t).symm
  rw [erased script other, erased script' other', same]

end

theorem tokens_do_not_interfere_booking :
    ((server productionServer).run (fun _ _ => True) (.init .empty)
        [.receive bookParcel "U-1" "B-1", .platform (.settle 0 .ok)]).map Server.visible =
      ((server productionServer).run (fun _ _ => True) (.init .empty)
        [.receive { bookParcel with authorization := some "Bearer x" } "U-1" "B-1",
          .platform (.settle 0 .ok)]).map Server.visible :=
  tokens_do_not_interfere rfl (by decide)
end CourierPlatform
