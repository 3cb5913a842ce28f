import AirBnbClone.DartValue
import AirBnbClone.ExceptTraverse
import AirBnbClone.JsonValue

/-!
# Stripe's payment intent and its JSON form

`toJson` writes an optional field only where it is set, and `fromJson` reads a missing key as
`null`. The two lists of keys are written separately, in each of the five classes.
-/

namespace AirBnbClone

namespace JsonCast

def asString : JsonValue → Except DartError String
  | .string s => .ok s
  | _ => .error .typeError

def asInt : JsonValue → Except DartError ℤ
  | .int n => .ok n
  | _ => .error .typeError

def asBool : JsonValue → Except DartError Bool
  | .bool b => .ok b
  | _ => .error .typeError

/-- `as Map<String, dynamic>`. -/
def asMap : JsonValue → Except DartError JsonMap
  | .map entries => .ok entries
  | _ => .error .typeError

/-- `as List<dynamic>`. -/
def asList : JsonValue → Except DartError (List JsonValue)
  | .list vs => .ok vs
  | _ => .error .typeError

/-- A cast to `T?`, and `value != null ? decode(value) : null`. -/
def nullable {α : Type} (decode : JsonValue → Except DartError α) :
    JsonValue → Except DartError (Option α)
  | .null => .ok none
  | v => (decode v).map some

/-- `(value as List<dynamic>).map((e) => e as String).toList()`. -/
def asStrings (v : JsonValue) : Except DartError (List String) := do
  (← asList v).mapM asString

/-- `value == true`. -/
def isTrue : JsonValue → Bool
  | .bool b => b
  | _ => false

def ofStrings (ss : List String) : JsonValue := .list (ss.map .string)

@[simp] theorem asString_string (s : String) : asString (.string s) = .ok s := rfl

@[simp] theorem asInt_int (n : ℤ) : asInt (.int n) = .ok n := rfl

@[simp] theorem nullable_string (s : String) : nullable asString (.string s) = .ok (some s) := rfl

@[simp] theorem nullable_int (n : ℤ) : nullable asInt (.int n) = .ok (some n) := rfl

@[simp] theorem nullable_bool (b : Bool) : nullable asBool (.bool b) = .ok (some b) := rfl

theorem asStrings_ofStrings (ss : List String) : asStrings (ofStrings ss) = .ok ss := by
  change (ss.map JsonValue.string).mapM asString = .ok ss
  induction ss with
  | nil => rfl
  | cons s ss ih =>
      rw [List.map_cons, List.mapM_cons, ih]
      rfl

/-- What an optional field wrote is read back. -/
theorem nullable_getD_map {α : Type} (decode : JsonValue → Except DartError α)
    (encode : α → JsonValue) (hdecode : ∀ a, decode (encode a) = .ok a)
    (hencode : ∀ a, encode a ≠ .null) (a : Option α) :
    nullable decode ((a.map encode).getD .null) = .ok a := by
  cases a with
  | none => rfl
  | some a =>
      have hsome : nullable decode (encode a) = (decode (encode a)).map some := by
        have hne := hencode a
        cases hv : encode a with
        | null => exact absurd hv hne
        | _ => rfl
      rw [Option.map_some, Option.getD_some, hsome, hdecode]
      rfl

@[simp] theorem nullable_asString (s : Option String) :
    nullable asString ((s.map .string).getD .null) = .ok s :=
  nullable_getD_map asString .string (fun _ => rfl) (by simp) s

@[simp] theorem nullable_asInt (n : Option ℤ) :
    nullable asInt ((n.map .int).getD .null) = .ok n :=
  nullable_getD_map asInt .int (fun _ => rfl) (by simp) n

@[simp] theorem nullable_asMap (entries : Option JsonMap) :
    nullable asMap ((entries.map .map).getD .null) = .ok entries :=
  nullable_getD_map asMap .map (fun _ => rfl) (by simp) entries

@[simp] theorem nullable_asStrings (ss : Option (List String)) :
    nullable asStrings ((ss.map ofStrings).getD .null) = .ok ss :=
  nullable_getD_map asStrings ofStrings asStrings_ofStrings (by simp [ofStrings]) ss

end JsonCast

namespace Stripe

open JsonCast

structure AutomaticPaymentMethods where
  allowRedirects : Option String
  enabled : Bool

structure PaymentMethodConfigurationDetails where
  id : String
  parent : Option String

structure ShippingAddress where
  city : Option String
  country : Option String
  line1 : Option String
  line2 : Option String
  postalCode : Option String
  state : Option String

structure Shipping where
  address : Option ShippingAddress
  carrier : Option String
  name : Option String
  phone : Option String
  trackingNumber : Option String

/-- The `dynamic` fields `lastPaymentError` and `nextAction` are absent when they are `null`. -/
structure PaymentIntent where
  id : String
  object : String
  amount : ℤ
  amountCapturable : ℤ
  amountReceived : ℤ
  clientSecret : String
  confirmationMethod : String
  created : ℤ
  currency : String
  description : Option String
  livemode : Bool
  status : String
  amountDetails : Option JsonMap
  automaticPaymentMethods : Option AutomaticPaymentMethods
  canceledAt : Option ℤ
  cancellationReason : Option String
  captureMethod : Option String
  customer : Option String
  excludedPaymentMethodTypes : Option (List String)
  lastPaymentError : JsonValue
  latestCharge : Option String
  metadata : Option JsonMap
  nextAction : JsonValue
  paymentMethod : Option String
  paymentMethodConfigurationDetails : Option PaymentMethodConfigurationDetails
  paymentMethodOptions : Option JsonMap
  paymentMethodTypes : Option (List String)
  receiptEmail : Option String
  setupFutureUsage : Option String
  shipping : Option Shipping
  statementDescriptor : Option String
  statementDescriptorSuffix : Option String

namespace AutomaticPaymentMethods

def fromJson (json : JsonMap) : Except DartError AutomaticPaymentMethods := do
  let allowRedirects ← nullable asString (json.get "allow_redirects")
  pure { allowRedirects, enabled := isTrue (json.get "enabled") }

def jsonFields (m : AutomaticPaymentMethods) : List (String × Option JsonValue) :=
  [("allow_redirects", m.allowRedirects.map .string),
    ("enabled", some (.bool m.enabled))]

def toJson (m : AutomaticPaymentMethods) : JsonMap := .literal m.jsonFields

end AutomaticPaymentMethods

namespace PaymentMethodConfigurationDetails

def fromJson (json : JsonMap) : Except DartError PaymentMethodConfigurationDetails := do
  let id ← asString (json.get "id")
  let parent ← nullable asString (json.get "parent")
  pure { id, parent }

def jsonFields (d : PaymentMethodConfigurationDetails) : List (String × Option JsonValue) :=
  [("id", some (.string d.id)),
    ("parent", d.parent.map .string)]

def toJson (d : PaymentMethodConfigurationDetails) : JsonMap := .literal d.jsonFields

end PaymentMethodConfigurationDetails

namespace ShippingAddress

def fromJson (json : JsonMap) : Except DartError ShippingAddress := do
  let city ← nullable asString (json.get "city")
  let country ← nullable asString (json.get "country")
  let line1 ← nullable asString (json.get "line1")
  let line2 ← nullable asString (json.get "line2")
  let postalCode ← nullable asString (json.get "postal_code")
  let state ← nullable asString (json.get "state")
  pure { city, country, line1, line2, postalCode, state }

def jsonFields (a : ShippingAddress) : List (String × Option JsonValue) :=
  [("city", a.city.map .string),
    ("country", a.country.map .string),
    ("line1", a.line1.map .string),
    ("line2", a.line2.map .string),
    ("postal_code", a.postalCode.map .string),
    ("state", a.state.map .string)]

def toJson (a : ShippingAddress) : JsonMap := .literal a.jsonFields

end ShippingAddress

namespace Shipping

def fromJson (json : JsonMap) : Except DartError Shipping := do
  let address ← nullable (fun v => do ShippingAddress.fromJson (← asMap v)) (json.get "address")
  let carrier ← nullable asString (json.get "carrier")
  let name ← nullable asString (json.get "name")
  let phone ← nullable asString (json.get "phone")
  let trackingNumber ← nullable asString (json.get "tracking_number")
  pure { address, carrier, name, phone, trackingNumber }

def jsonFields (s : Shipping) : List (String × Option JsonValue) :=
  [("address", s.address.map (fun a => .map a.toJson)),
    ("carrier", s.carrier.map .string),
    ("name", s.name.map .string),
    ("phone", s.phone.map .string),
    ("tracking_number", s.trackingNumber.map .string)]

def toJson (s : Shipping) : JsonMap := .literal s.jsonFields

end Shipping

namespace PaymentIntent

def fromJson (json : JsonMap) : Except DartError PaymentIntent := do
  let id ← asString (json.get "id")
  let object ← asString (json.get "object")
  let amount ← asInt (json.get "amount")
  let amountCapturable ← nullable asInt (json.get "amount_capturable")
  let amountReceived ← nullable asInt (json.get "amount_received")
  let clientSecret ← asString (json.get "client_secret")
  let confirmationMethod ← nullable asString (json.get "confirmation_method")
  let created ← asInt (json.get "created")
  let currency ← asString (json.get "currency")
  let description ← nullable asString (json.get "description")
  let livemode ← nullable asBool (json.get "livemode")
  let status ← asString (json.get "status")
  let amountDetails ← nullable asMap (json.get "amount_details")
  let automaticPaymentMethods ← nullable (fun v => do AutomaticPaymentMethods.fromJson (← asMap v))
    (json.get "automatic_payment_methods")
  let canceledAt ← nullable asInt (json.get "canceled_at")
  let cancellationReason ← nullable asString (json.get "cancellation_reason")
  let captureMethod ← nullable asString (json.get "capture_method")
  let customer ← nullable asString (json.get "customer")
  let excludedPaymentMethodTypes ← nullable asStrings (json.get "excluded_payment_method_types")
  let lastPaymentError := json.get "last_payment_error"
  let latestCharge ← nullable asString (json.get "latest_charge")
  let metadata ← nullable asMap (json.get "metadata")
  let nextAction := json.get "next_action"
  let paymentMethod ← nullable asString (json.get "payment_method")
  let paymentMethodConfigurationDetails ←
    nullable (fun v => do PaymentMethodConfigurationDetails.fromJson (← asMap v))
      (json.get "payment_method_configuration_details")
  let paymentMethodOptions ← nullable asMap (json.get "payment_method_options")
  let paymentMethodTypes ← nullable asStrings (json.get "payment_method_types")
  let receiptEmail ← nullable asString (json.get "receipt_email")
  let setupFutureUsage ← nullable asString (json.get "setup_future_usage")
  let shipping ← nullable (fun v => do Shipping.fromJson (← asMap v)) (json.get "shipping")
  let statementDescriptor ← nullable asString (json.get "statement_descriptor")
  let statementDescriptorSuffix ← nullable asString (json.get "statement_descriptor_suffix")
  pure {
    id, object, amount, clientSecret, created, currency, description, status, amountDetails,
    automaticPaymentMethods, canceledAt, cancellationReason, captureMethod, customer,
    excludedPaymentMethodTypes, lastPaymentError, latestCharge, metadata, nextAction,
    paymentMethod, paymentMethodConfigurationDetails, paymentMethodOptions, paymentMethodTypes,
    receiptEmail, setupFutureUsage, shipping, statementDescriptor, statementDescriptorSuffix
    amountCapturable := amountCapturable.getD 0
    amountReceived := amountReceived.getD 0
    confirmationMethod := confirmationMethod.getD "automatic"
    livemode := livemode.getD false }

/-- The entries of `toJson`, in order; the first twelve are always written. -/
def jsonFields (p : PaymentIntent) : List (String × Option JsonValue) :=
  [("id", some (.string p.id)),
    ("object", some (.string p.object)),
    ("amount", some (.int p.amount)),
    ("amount_capturable", some (.int p.amountCapturable)),
    ("amount_received", some (.int p.amountReceived)),
    ("client_secret", some (.string p.clientSecret)),
    ("confirmation_method", some (.string p.confirmationMethod)),
    ("created", some (.int p.created)),
    ("currency", some (.string p.currency)),
    ("description", some ((p.description.map .string).getD .null)),
    ("livemode", some (.bool p.livemode)),
    ("status", some (.string p.status)),
    ("amount_details", p.amountDetails.map .map),
    ("automatic_payment_methods", p.automaticPaymentMethods.map (fun m => .map m.toJson)),
    ("canceled_at", p.canceledAt.map .int),
    ("cancellation_reason", p.cancellationReason.map .string),
    ("capture_method", p.captureMethod.map .string),
    ("customer", p.customer.map .string),
    ("excluded_payment_method_types", p.excludedPaymentMethodTypes.map ofStrings),
    ("last_payment_error", p.lastPaymentError.notNull),
    ("latest_charge", p.latestCharge.map .string),
    ("metadata", p.metadata.map .map),
    ("next_action", p.nextAction.notNull),
    ("payment_method", p.paymentMethod.map .string),
    ("payment_method_configuration_details",
      p.paymentMethodConfigurationDetails.map (fun d => .map d.toJson)),
    ("payment_method_options", p.paymentMethodOptions.map .map),
    ("payment_method_types", p.paymentMethodTypes.map ofStrings),
    ("receipt_email", p.receiptEmail.map .string),
    ("setup_future_usage", p.setupFutureUsage.map .string),
    ("shipping", p.shipping.map (fun s => .map s.toJson)),
    ("statement_descriptor", p.statementDescriptor.map .string),
    ("statement_descriptor_suffix", p.statementDescriptorSuffix.map .string)]

def toJson (p : PaymentIntent) : JsonMap := .literal p.jsonFields

end PaymentIntent

section RoundTrip

theorem AutomaticPaymentMethods.fromJson_toJson (m : AutomaticPaymentMethods) :
    fromJson m.toJson = .ok m := by
  simp [fromJson, toJson, JsonMap.get_literal, jsonFields, List.lookup_cons, JsonCast.isTrue]

theorem PaymentMethodConfigurationDetails.fromJson_toJson (d : PaymentMethodConfigurationDetails) :
    fromJson d.toJson = .ok d := by
  simp [fromJson, toJson, JsonMap.get_literal, jsonFields, List.lookup_cons,
    ExceptTraverse.ok_bind]

theorem ShippingAddress.fromJson_toJson (a : ShippingAddress) : fromJson a.toJson = .ok a := by
  simp [fromJson, toJson, JsonMap.get_literal, jsonFields, List.lookup_cons,
    ExceptTraverse.ok_bind]

theorem Shipping.fromJson_toJson (s : Shipping) : fromJson s.toJson = .ok s := by
  have haddress := nullable_getD_map (fun v => do ShippingAddress.fromJson (← asMap v))
    (fun a => .map a.toJson) ShippingAddress.fromJson_toJson (by simp) s.address
  simp [fromJson, toJson, JsonMap.get_literal, jsonFields, List.lookup_cons,
    ExceptTraverse.ok_bind, haddress]

/-- Each key is written once. -/
theorem PaymentIntent.get_toJson (p : PaymentIntent) (key : String) :
    p.toJson.get key = (p.jsonFields.lookup key).join.getD .null :=
  JsonMap.get_literal (by simp [jsonFields]) key

/-- What `toJson` writes, `fromJson` reads back, field by field. -/
theorem paymentIntent_roundTrip (p : PaymentIntent) : PaymentIntent.fromJson p.toJson = .ok p := by
  have hmethods := nullable_getD_map (fun v => do AutomaticPaymentMethods.fromJson (← asMap v))
    (fun m => .map m.toJson) AutomaticPaymentMethods.fromJson_toJson (by simp)
    p.automaticPaymentMethods
  have hdetails := nullable_getD_map
    (fun v => do PaymentMethodConfigurationDetails.fromJson (← asMap v))
    (fun d => .map d.toJson) PaymentMethodConfigurationDetails.fromJson_toJson (by simp)
    p.paymentMethodConfigurationDetails
  have hshipping := nullable_getD_map (fun v => do Shipping.fromJson (← asMap v))
    (fun s => .map s.toJson) Shipping.fromJson_toJson (by simp) p.shipping
  simp [PaymentIntent.fromJson, PaymentIntent.get_toJson, PaymentIntent.jsonFields,
    List.lookup_cons, ExceptTraverse.ok_bind, hmethods, hdetails, hshipping]

end RoundTrip

end Stripe

end AirBnbClone
