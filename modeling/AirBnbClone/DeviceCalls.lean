import AirBnbClone.AsyncProgram
import AirBnbClone.Repositories

/-!
# The calls a cubit awaits and the device that answers them

A cubit's asynchronous functions are programs over the calls below. `serve` answers a call on one
device: the repositories act on the shared remote database and the device's own Realm, and the
signed-in user, the payment provider and the clock belong to the device's environment.
-/

namespace AirBnbClone

open Async

/-- A Realm object in the hands of the caller; it stops being valid when its row is deleted. -/
structure Managed (α : Type) where
  object : α
  isValid : Bool
  deriving DecidableEq

/-- Of the provider's answer only what the payment sheet is opened with is kept. -/
structure PaymentIntent where
  id : String
  clientSecret : String
  deriving DecidableEq

inductive Call
  | userId
  | createPaymentIntent (name address amount : String)
  | getBookingsForPosting (postingId : String) (userId : Option String)
  | createBooking (data : Doc)
  | getUser (id : String)
  | updateUser (id : String) (data : Doc)
  | getConversation (id : String)
  | updateConversation (id : String) (data : Doc)
  | createConversation (data : Doc) (id : Option String)
  | createMessage (data : Doc)
  | now

abbrev Reply : Call → Type
  | .userId => Option String
  | .createPaymentIntent .. => PaymentIntent
  | .getBookingsForPosting .. => List (Managed Booking)
  | .createBooking .. => Managed Booking
  | .getUser .. => Managed User
  | .updateUser .. => Managed User
  | .getConversation .. => Option (Managed Conversation)
  | .updateConversation .. => Managed Conversation
  | .createConversation .. => Managed Conversation
  | .createMessage .. => Managed Message
  | .now => DateTime

/-- The collection a call may write to. -/
def Call.collection : Call → Option String
  | .createBooking _ => some FirestoreCollection.booking
  | .updateUser .. => some FirestoreCollection.user
  | .updateConversation .. => some FirestoreCollection.conversation
  | .createConversation .. => some FirestoreCollection.conversation
  | .createMessage _ => some FirestoreCollection.message
  | _ => none

namespace Await

variable {σ : Type}

abbrev userId : Prog Reply σ DartError (Option String) := Prog.call Call.userId

abbrev createPaymentIntent (name address amount : String) : Prog Reply σ DartError PaymentIntent :=
  Prog.call (Call.createPaymentIntent name address amount)

abbrev getBookingsForPosting (postingId : String) (userId : Option String) :
    Prog Reply σ DartError (List (Managed Booking)) :=
  Prog.call (Call.getBookingsForPosting postingId userId)

abbrev createBooking (data : Doc) : Prog Reply σ DartError (Managed Booking) :=
  Prog.call (Call.createBooking data)

abbrev getUser (id : String) : Prog Reply σ DartError (Managed User) := Prog.call (Call.getUser id)

abbrev updateUser (id : String) (data : Doc) : Prog Reply σ DartError (Managed User) :=
  Prog.call (Call.updateUser id data)

abbrev getConversation (id : String) : Prog Reply σ DartError (Option (Managed Conversation)) :=
  Prog.call (Call.getConversation id)

abbrev updateConversation (id : String) (data : Doc) :
    Prog Reply σ DartError (Managed Conversation) :=
  Prog.call (Call.updateConversation id data)

abbrev createConversation (data : Doc) (id : Option String) :
    Prog Reply σ DartError (Managed Conversation) :=
  Prog.call (Call.createConversation data id)

abbrev createMessage (data : Doc) : Prog Reply σ DartError (Managed Message) :=
  Prog.call (Call.createMessage data)

abbrev now : Prog Reply σ DartError DateTime := Prog.call Call.now

end Await

/-- What a device finds outside the two databases; `clock i` is its `i`-th reading. -/
structure Environment where
  userId : Option String
  createPaymentIntent : String → String → String → Except DartError PaymentIntent
  clock : ℕ → DateTime

structure Device where
  world : World
  readings : ℕ

namespace Device

def answer {α β : Type} (f : World → Except DartError α × World) (wrap : α → β) (d : Device) :
    Except DartError β × Device :=
  let (result, world) := f d.world
  (result.map wrap, { d with world := world })

def valid {α : Type} (object : α) : Managed α := ⟨object, true⟩

open UserRepository BookingRepository ConversationRepository MessageRepository in
def serve (z : Zone) (ids : AutoId) (env : Environment) :
    (call : Call) → Device → Except DartError (Reply call) × Device
  | .userId, d => (.ok env.userId, d)
  | .createPaymentIntent name address amount, d => (env.createPaymentIntent name address amount, d)
  | .getBookingsForPosting postingId userId, d =>
      answer (getBookingsForPosting z postingId userId) (List.map valid) d
  | .createBooking data, d => answer (createBooking z ids data) valid d
  | .getUser id, d => answer (getUser z id) valid d
  | .updateUser id data, d => answer (updateUser z id data) valid d
  | .getConversation id, d => answer (getConversation z id) (Option.map valid) d
  | .updateConversation id data, d => answer (updateConversation z id data) valid d
  | .createConversation data id, d => answer (createConversation z ids data id) valid d
  | .createMessage data, d => answer (createMessage z ids data) valid d
  | .now, d => (.ok (env.clock d.readings), { d with readings := d.readings + 1 })

end Device

end AirBnbClone
