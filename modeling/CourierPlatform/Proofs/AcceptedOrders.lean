import CourierPlatform.Proofs.ServerMoves
import CourierPlatform.Spec.ServerRuns

/-! What gets past the validators is what is stored and sent, whatever happens to it in between. -/
namespace CourierPlatform
open Js Library

variable {config : ServerConfig} {formats : Formats}

structure OrderDetails.Accepted (formats : Formats) (details : OrderDetails) : Prop where
  sender : addressSchema formats details.senderDetails = true
  recipient : addressSchema formats details.recipientDetails = true
  packageDetails : packageDetailsSchema details.packageDetails = true
  paymentDetails : paymentDetailsSchema details.paymentDetails = true
  country : details.senderDetails.country.isSome ∧ details.recipientDetails.country.isSome
  addressType : details.senderDetails.addressType.isSome ∧ details.recipientDetails.addressType.isSome
  serviceType : details.serviceType.isSome

theorem Request.orders_accepted {request : Request} (h : request.accepted formats = true)
    (o : NormalizedCreateOrderRequest) (mem : o ∈ request.orders) : o.accepted formats = true := by
  cases request with
  | createOrder orderData => rwa [List.mem_singleton.mp mem]
  | createBulkOrders orders batchId =>
    simp only [Request.accepted, bulkCreateOrderSchema, Bool.and_eq_true, List.all_eq_true] at h
    exact h.2 o mem
  | _ => contradiction

theorem NormalizedCreateOrderRequest.accepted_details {order : NormalizedCreateOrderRequest}
    (h : order.accepted formats = true) : order.details.Accepted formats := by
  obtain ⟨valid, filled⟩ := Bool.and_eq_true_iff.mp h
  have filled : order.useDefaults = order := of_decide_eq_true filled
  have service : order.serviceType = some (order.serviceType.getD "STANDARD") :=
    (congrArg NormalizedCreateOrderRequest.serviceType filled).symm
  have sender := congrArg NormalizedCreateOrderRequest.sender filled
  have recipient := congrArg NormalizedCreateOrderRequest.recipient filled
  have stated (address : AddressInfo) (filled : address.useDefaults = address) :
      address.country.isSome ∧ address.addressType.isSome := by
    rw [← filled]
    exact ⟨rfl, rfl⟩
  have ofSender := stated _ sender
  have ofRecipient := stated _ recipient
  simp only [createOrderSchema, Bool.and_eq_true] at valid
  obtain ⟨⟨⟨⟨⟨⟨⟨-, validSender⟩, validRecipient⟩, -⟩, package⟩, payment⟩, -⟩, listed⟩ := valid
  refine ⟨validSender, validRecipient, package, payment, ⟨ofSender.1, ofRecipient.1⟩,
    ⟨ofSender.2, ofRecipient.2⟩, ?_⟩
  rw [service, Option.all_some, decide_eq_true_eq] at listed
  change (orNull order.serviceType).isSome = true
  rw [service, orNull, Option.filter_some, if_pos]
  · rfl
  · refine decide_eq_true fun empty => ?_
    rw [empty] at listed
    revert listed
    decide

theorem State.From.accepted {env : Env} {s : State}
    (reach : (platform env).Reaches (fun _ l => l.accepted formats = true) (.init .empty) s) :
    s.From (fun o => o.accepted formats = true) := by
  refine State.From.reaches (.init _) ?_ reach
  rintro s l permitted request rfl
  exact Request.orders_accepted permitted

/-- Whatever is stored, and whatever a courier is asked to ship, by a request, by an item of a batch or by
the worker, is a body that the validator has accepted, with the schema's defaults. -/
theorem stored_orders_accepted {t : Server} (sound : config.validators.Sound formats)
    (reach : (server config).Reaches (fun _ _ => True) (.init .empty) t) :
    (∀ x row, t.platform.world.findOne x = some row →
      row.rawRequestPayload.accepted formats = true ∧ row.details.Accepted formats) ∧
    ∀ adapter orderData result,
      .createShipment adapter orderData result ∈ t.platform.world.courierCalls →
        orderData.accepted formats = true := by
  have made : t.platform.From (fun o => o.accepted formats = true) :=
    .accepted (Server.reaches_platform sound reach)
  refine ⟨fun x row stored => ?_, made.world.bookings⟩
  obtain ⟨payload, first, accepted, same⟩ := made.world.rows x row stored
  exact ⟨payload, same ▸ first.accepted_details accepted⟩

theorem stored_orders_accepted_booked : ∃ (t : Server) (row : Order),
    t.platform.world.findOne "A-1" = some row ∧ row.senderDetails.country = some "India" ∧
      row.details.Accepted Accounts.plainLogins.formats := by
  obtain ⟨t, reach, test⟩ := Machine.Reaches.of_run_any (server productionServer)
    (fun _ _ => True) (.init .empty)
    [.receive bookParcel "U-1" "B-1", .platform (.settle 0 .ok), .platform (.settle 0 .ok)]
    (fun t => (t.platform.world.findOne "A-1").any fun row =>
      row.senderDetails.country = some "India") (by decide)
  obtain ⟨row, stored, country⟩ := (Option.any_eq_true _ _).mp test
  have accepted := (stored_orders_accepted sampleValidators_sound reach).1 "A-1" row stored
  exact ⟨t, row, stored, of_decide_eq_true country, accepted.2⟩

end CourierPlatform
