import AirBnbClone.LinkedItems
import AirBnbClone.SenderPrefetch

/-!
# The senders of a chat

The picture beside a message is that of the user the message is linked to. A user that is stored
later is linked by the write that stores it, and the list that follows the write shows the picture;
the users that are not stored are fetched. So a chat that has shown the last change of the local
database lacks a picture only where a fetch is under way or has failed.
-/

namespace AirBnbClone

open FireStoreService RealmService

/-- An open chat on its device. `changed` is set while the local database has been written since the
last list, and `failed` are the senders whose fetch has failed since then. -/
structure ChatViewer where
  world : World
  chat : ChatScreen := {}
  changed : Bool := false
  failed : Finset String := ∅

/-- A write of any other function of the app, a change of the remote database, a list that the
stream delivers, and the end of a fetch: lost on the way, or answered. -/
inductive ChatViewerEvent
  | store (op : StoreOp)
  | remote (f : Firestore)
  | listed
  | fetched (i : ℕ) (lost : Option DartError)

namespace ChatViewer

def linked (r : Realm) (m : Message) : LinkedMessage where
  object := m
  isValid := true
  sender := linkedObject r ⟨.user, "senderId", "sender"⟩ .message m

section Step

variable (z : Zone) (conversationId : String)

def results (r : Realm) : List LinkedMessage :=
  ((ObservedQuery.messages conversationId).shown r).map (linked r)

/-- The user document is there and decodes, and with it the local database is written. -/
def writes (id : String) (w : World) : Bool :=
  match (getDoc z .user FirestoreCollection.user id w).1 with
  | .ok (some _) => true
  | _ => false

def getUser (id : String) (lost : Option DartError) (w : World) :
    Except DartError User × World × Bool :=
  match lost with
  | some e => (.error e, w, false)
  | none =>
      ((UserRepository.getUser z id w).1, (UserRepository.getUser z id w).2, writes z id w)

def step (d : ChatViewer) : ChatViewerEvent → Option ChatViewer
  | .store op => some { d with
      world := { d.world with realm := op.apply d.world.realm }
      changed := true }
  | .remote f => some { d with world := { d.world with remote := f } }
  | .listed => some { d with
      chat := d.chat.onMessages (results conversationId d.world.realm)
      changed := false
      failed := ∅ }
  | .fetched i lost =>
      match d.chat.calls[i]? with
      | some ⟨id, false⟩ =>
          let (reply, world, wrote) := getUser z id lost d.world
          (d.chat.step (.completed i reply)).map (fun chat =>
            { world, chat
              changed := d.changed || wrote
              failed := if reply.isOk then d.failed else insert id d.failed })
      | _ => none

end Step

/-- The message shows the picture of its sender, or its sender is not stored and is being fetched,
or the fetch has failed. -/
def ShowsSender (d : ChatViewer) (item : BaseItemModel LinkedMessage) : Prop :=
  ∃ m, item.object = some m ∧ ∀ id, m.object.senderId = some id → id ≠ "" →
    match getEntity d.world.realm .user id with
    | some user => item.imageUrl = user.imageUrl.getD ""
    | none => item.imageUrl = "" ∧ (id ∈ d.chat.inFlightSenderIds ∨ id ∈ d.failed)

/-- The item was made of a stored message, and a sender it lacks is accounted for. -/
def Listed (d : ChatViewer) (item : BaseItemModel LinkedMessage) : Prop :=
  ∃ m, getEntity d.world.realm .message m.id = some m ∧
    item.object = some (linked d.world.realm m) ∧
    item.imageUrl = ((linked d.world.realm m).sender.bind User.imageUrl).getD "" ∧
    ∀ id, (linked d.world.realm m).missingSender = some id →
      id ∈ d.chat.inFlightSenderIds ∨ id ∈ d.failed

structure Inv (d : ChatViewer) : Prop where
  coherent : Coherent d.world.realm
  listed : d.changed = false → ∀ item ∈ d.chat.state.messages, d.Listed item

variable {z : Zone} {conversationId : String} {d d' : ChatViewer} {e : ChatViewerEvent} {r : Realm}
  {w : World} {item : BaseItemModel LinkedMessage}

/-- In a coherent store a message is linked to its sender as soon as that is stored. -/
theorem sender_linked (hr : Coherent r) {m : Message} {id : String}
    (hm : getEntity r .message m.id = some m) (hid : m.senderId = some id) (hne : id ≠ "") :
    (linked r m).sender = getEntity r .user id := by
  have hlinked : (linked r m).sender = referenced r ⟨.user, "senderId", "sender"⟩ .message m :=
    linkedObject_eq hr (by decide) hm
  have hkey : Entity.foreignKey .message m "senderId" = some id := hid
  rw [hlinked, referenced, hkey, Option.bind_some, if_neg hne]

theorem Listed.shows (h : d.Listed item) (hr : Coherent d.world.realm) : d.ShowsSender item := by
  obtain ⟨m, hm, hobject, himage, hmissing⟩ := h
  refine ⟨_, hobject, fun id hid hne => ?_⟩
  have hsender := sender_linked hr hm hid hne
  rw [himage, hsender]
  cases huser : getEntity d.world.realm .user id with
  | some user => rfl
  | none =>
      rw [huser] at hsender
      exact ⟨rfl, hmissing id (ChatScreen.missingSender_eq_some_iff.mpr ⟨rfl, hsender, hid, hne⟩)⟩

theorem getUser_coherent (hr : Coherent w.realm) (id : String) (lost : Option DartError) :
    Coherent (getUser z id lost w).2.1.realm := by
  cases lost with
  | some e => exact hr
  | none =>
      change Coherent (UserRepository.getUser z id w).2.realm
      rw [getUser_world]
      unfold getDoc
      split
      · exact hr
      · split
        · exact hr
        · exact coherent_createUnawaited hr _

/-- A fetch that does not write fails and leaves the local database. -/
theorem getUser_of_not_writes {id : String} {lost : Option DartError}
    (h : (getUser z id lost w).2.2 = false) :
    (getUser z id lost w).2.1.realm = w.realm ∧ (getUser z id lost w).1.isOk = false := by
  cases lost with
  | some e => exact ⟨rfl, rfl⟩
  | none =>
      change writes z id w = false at h
      change (UserRepository.getUser z id w).2.realm = w.realm ∧
        (UserRepository.getUser z id w).1.isOk = false
      unfold writes at h
      unfold UserRepository.getUser getDoc at *
      cases hdoc : w.remote.doc FirestoreCollection.user id with
      | none => exact ⟨rfl, rfl⟩
      | some doc =>
          dsimp only at h ⊢
          cases hdecoded : FirestoreMapper.fromDocumentSnapshot z .user id doc with
          | error e => exact ⟨rfl, rfl⟩
          | ok user =>
              rw [hdoc] at h
              dsimp only at h
              rw [hdecoded] at h
              cases h

theorem listed_onMessages (hitem : item ∈ (d.chat.onMessages
    (results conversationId d.world.realm)).state.messages) :
    ChatViewer.Listed { d with
      chat := d.chat.onMessages (results conversationId d.world.realm)
      changed := false
      failed := ∅ } item := by
  obtain ⟨linkedMessage, hresult, rfl⟩ := List.mem_map.mp hitem
  have hmem : linkedMessage ∈ results conversationId d.world.realm := (List.mem_filter.mp hresult).1
  obtain ⟨m, hm, rfl⟩ := List.mem_map.mp hmem
  have hstored : getEntity d.world.realm .message m.id = some m :=
    ObservedQuery.getEntity_of_shown hm
  exact ⟨m, hstored, rfl, rfl,
    fun id hid => .inl (ChatScreen.mem_inFlight_onMessages hmem hid)⟩

/-- A fetch that fails leaves the list as it was, with the sender among the failed ones. -/
theorem Listed.fetched {chat : ChatScreen} {world : World} {id : String} (h : d.Listed item)
    (hrealm : world.realm = d.world.realm)
    (hflight : chat.inFlightSenderIds = d.chat.inFlightSenderIds.erase id) {changed : Bool} :
    ChatViewer.Listed ⟨world, chat, changed, insert id d.failed⟩ item := by
  obtain ⟨m, hm, hobject, himage, hmissing⟩ := h
  unfold Listed
  dsimp only
  rw [hrealm]
  refine ⟨m, hm, hobject, himage, fun id' hid => ?_⟩
  rw [hflight, Finset.mem_erase, Finset.mem_insert]
  by_cases hsame : id' = id
  · exact .inr (.inl hsame)
  · exact (hmissing id' hid).imp (⟨hsame, ·⟩) .inr

theorem inv_step (h : d.Inv) (hstep : step z conversationId d e = some d') : d'.Inv := by
  cases e with
  | store op =>
      cases hstep
      exact ⟨coherent_apply h.coherent op, nofun⟩
  | remote f =>
      cases hstep
      exact ⟨h.coherent, h.listed⟩
  | listed =>
      cases hstep
      exact ⟨h.coherent, fun _ _ => listed_onMessages⟩
  | fetched i lost =>
      unfold step at hstep
      dsimp only at hstep
      split at hstep
      · next id hcall =>
          obtain ⟨chat, hchat, rfl⟩ := Option.map_eq_some_iff.mp hstep
          obtain ⟨id', hcall', rfl⟩ := ChatScreen.step_completed hchat
          cases hcall.symm.trans hcall'
          refine ⟨getUser_coherent h.coherent id lost, fun hsettled item hitem => ?_⟩
          obtain ⟨hchanged, hwrites⟩ := Bool.or_eq_false_iff.mp hsettled
          obtain ⟨hrealm, hfailed⟩ := getUser_of_not_writes hwrites
          rw [hfailed]
          exact (h.listed hchanged item hitem).fetched hrealm rfl
      · cases hstep

/-- Whatever is stored, deleted and fetched meanwhile: when the list has come that follows the last
write of the local database, each message shows the picture of its sender, unless that is not stored
and a fetch of it is under way or has failed. -/
theorem settled_chat_shows_senders (z : Zone) (conversationId : String) (ops : List StoreOp)
    (remote : Firestore) (events : List ChatViewerEvent) :
    Execution.Always (step z conversationId)
      (fun d => d.changed = false → ∀ item ∈ d.chat.state.messages, d.ShowsSender item)
      { world := ⟨remote, ops.foldl StoreOp.apply Realm.empty⟩ } events := by
  have hopened : Inv { world := ⟨remote, ops.foldl StoreOp.apply Realm.empty⟩ } :=
    ⟨links_coherent_of_reachable ops, fun _ _ hitem => absurd hitem List.not_mem_nil⟩
  refine (Execution.always_of_step (fun _ _ _ h hstep => inv_step h hstep) events hopened).mono ?_
  exact fun d h hsettled item hitem => (h.listed hsettled item hitem).shows h.coherent

end ChatViewer

end AirBnbClone
