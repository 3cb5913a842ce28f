import AirBnbClone.BookPostingCubit

/-!
# `ChatCubit.sendMessage`

The chat screen appends messages to the conversation it was opened with. The function does not look
at the screen's state, so it is a program over any.
-/

namespace AirBnbClone

open Async

/-- The characters that `String.trim` removes. -/
def isWhitespace (c : Char) : Bool :=
  let n := c.toNat
  (0x09 ≤ n && n ≤ 0x0D) || n == 0x20 || n == 0x85 || n == 0xA0 || n == 0x1680 ||
    (0x2000 ≤ n && n ≤ 0x200A) || n == 0x2028 || n == 0x2029 || n == 0x202F || n == 0x205F ||
    n == 0x3000 || n == 0xFEFF

def trim (s : String) : String :=
  String.ofList ((s.toList.dropWhile isWhitespace).reverse.dropWhile isWhitespace).reverse

namespace ChatCubit

variable {σ : Type}

/-- Reading a property of an object whose row is gone throws. -/
def invalidated : DartError := .exception "Accessing object which has been invalidated or deleted"

def sendMessage (conversation : Option (Managed Conversation)) (text : String) :
    Prog Reply σ DartError Unit :=
  let trimmed := trim text
  if trimmed.isEmpty then pure ()
  else
    match conversation with
    | none => pure ()
    | some conv => do
        match ← Await.userId with
        | none => pure ()
        | some userId =>
            if conv.isValid then do
              let now ← Await.now
              let _ ← Await.createMessage
                (BookPostingCubit.messageData conv.object.id userId trimmed now)
            else Prog.done (.error invalidated)

end ChatCubit

end AirBnbClone
