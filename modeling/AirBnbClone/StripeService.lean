import AirBnbClone.PercentEncoding
import AirBnbClone.StripePaymentIntent

/-!
# The request that creates a payment intent

`StripeService.createPaymentIntent` writes the form by hand: it encodes keys and values, joins each
pair with `=` and the pairs with `&`. A name or an address may hold any of these characters.
-/

namespace AirBnbClone

namespace Uri

/-- Letters, digits and `-_.!~*'()`. -/
def unreserved (c : Char) : Bool := c.isAlphanum || "-_.!~*'()".toList.contains c

def encodeComponent (component : String) : String := PercentEncoding.encode unreserved component

theorem keepsForm_unreserved : PercentEncoding.KeepsForm unreserved where
  ascii c h := by
    unfold unreserved at h
    rw [Bool.or_eq_true] at h
    obtain h | h := h
    · change (decide (c.val ≥ 'A'.val ∧ c.val ≤ 'Z'.val) ||
        decide (c.val ≥ 'a'.val) && decide (c.val ≤ 'z'.val) ||
        decide (c.val ≥ '0'.val) && decide (c.val ≤ '9'.val)) = true at h
      change c.val.toNat < 128
      simp only [Bool.or_eq_true, Bool.and_eq_true, decide_eq_true_eq, UInt32.le_iff_toNat_le] at h
      obtain (⟨-, h⟩ | ⟨-, h⟩) | ⟨-, h⟩ := h <;> exact lt_of_le_of_lt h (by decide)
    · have hpunctuation : "-_.!~*'()".toList.all (fun c => decide (c.toNat < 128)) = true := by
        decide
      exact of_decide_eq_true (List.all_eq_true.mp hpunctuation c (List.contains_iff_mem.mp h))
  escapes_percent := by decide
  escapes_plus := by decide
  escapes_amp := by decide
  escapes_equals := by decide

end Uri

structure Request where
  url : String
  headers : List (String × String)
  body : String
  deriving DecidableEq

structure Response where
  statusCode : ℤ
  body : String
  deriving DecidableEq

inductive StripeError
  | stateError (message : String)
  | stripeException (statusCode : ℤ) (body : Option String)
  | dart (error : DartError)
  deriving DecidableEq

namespace StripeService

def paymentIntentsUrl : String := "https://api.stripe.com/v1/payment_intents"

/-- The entries of the map literal, whose keys are distinct. -/
def paymentIntentBody (name address amount currency description country : String) :
    List (String × String) :=
  [("amount", amount),
    ("currency", currency),
    ("automatic_payment_methods[enabled]", "true"),
    ("description", description),
    ("shipping[name]", name),
    ("shipping[address][line1]", address),
    ("shipping[address][country]", country)]

def encodedBody (body : List (String × String)) : String :=
  "&".intercalate (body.map (fun e => Uri.encodeComponent e.1 ++ "=" ++ Uri.encodeComponent e.2))

/-- `jsonDecode(response.body) as Map<String, dynamic>`. -/
def decodeResponse (jsonDecode : String → Except DartError JsonValue) (response : Response) :
    Except StripeError JsonMap :=
  if response.statusCode ≠ 200 then
    .error (.stripeException response.statusCode (some response.body))
  else (do JsonCast.asMap (← jsonDecode response.body)).mapError .dart

/-- The result and the requests that were posted. `secretKey` is the entry of the environment. -/
def createPaymentIntent (post : Request → Except DartError Response)
    (jsonDecode : String → Except DartError JsonValue) (secretKey : Option String)
    (name address amount currency description country : String) :
    Except StripeError JsonMap × List Request :=
  let key := secretKey.getD ""
  if key = "" then (.error (.stateError "STRIPE_SECRET_KEY is not set"), [])
  else
    let request : Request := {
      url := paymentIntentsUrl
      headers := [("Authorization", "Bearer " ++ key),
        ("Content-Type", "application/x-www-form-urlencoded")]
      body := encodedBody (paymentIntentBody name address amount currency description country) }
    (((post request).mapError .dart).bind (decodeResponse jsonDecode), [request])

/-- Every request that is posted reads back as the seven entries of the body, in order. -/
theorem posted_body_decodes (post : Request → Except DartError Response)
    (jsonDecode : String → Except DartError JsonValue) (secretKey : Option String)
    (name address amount currency description country : String) (plusToSpace : Bool) :
    (createPaymentIntent post jsonDecode secretKey name address amount currency description
      country).2.map (fun request => PercentEncoding.decodeForm plusToSpace request.body) =
      if secretKey.getD "" = "" then []
      else [some [("amount", amount), ("currency", currency),
        ("automatic_payment_methods[enabled]", "true"), ("description", description),
        ("shipping[name]", name), ("shipping[address][line1]", address),
        ("shipping[address][country]", country)]] := by
  have hform (body : List (String × String)) (hne : body ≠ []) :
      PercentEncoding.decodeForm plusToSpace (encodedBody body) = some body :=
    PercentEncoding.decodeForm_encodeForm Uri.keepsForm_unreserved hne
  unfold createPaymentIntent
  by_cases hkey : secretKey.getD "" = ""
  · simp only [if_pos hkey, List.map_nil]
  · simp only [if_neg hkey, List.map_cons, List.map_nil,
      hform _ (List.cons_ne_nil _ _), paymentIntentBody]

end StripeService

namespace StripePaymentIntentRepository

/-- The service's defaults, and its answer as a payment intent. -/
def createPaymentIntent (post : Request → Except DartError Response)
    (jsonDecode : String → Except DartError JsonValue) (secretKey : Option String)
    (name address amount : String) : Except StripeError Stripe.PaymentIntent × List Request :=
  let (json, requests) := StripeService.createPaymentIntent post jsonDecode secretKey name address
    amount "USD" "Booking Payment for Property" "USA"
  (json.bind (fun json => (Stripe.PaymentIntent.fromJson json).mapError .dart), requests)

end StripePaymentIntentRepository

end AirBnbClone
