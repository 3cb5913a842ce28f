import AirBnbClone.ConversationConsistency

/-!
# The preview of a conversation

A conversation carries the text and the time of its last message, which the inbox shows. A booking
message writes them and then appends the message; a chat message is only appended. When messages are
sent one after the other, with increasing clock readings, the preview stays that of the latest
message exactly as long as no chat message says anything new.
-/

namespace AirBnbClone

open Async FireStoreService BookPostingCubit

section Property

/-- The conversation's preview is the text of the message with the greatest creation time among its
messages, and not newer than that. -/
def PreviewsLatest (messages : DartMap Doc) (c : String) (D : Doc) : Prop :=
  ∃ k M t, messages.lookup k = some M ∧ M.get "conversation_id" = .string c ∧
    M.get "created_at" = .int t ∧
    (∀ k' M' t', messages.lookup k' = some M' → M'.get "conversation_id" = .string c →
      M'.get "created_at" = .int t' → t' ≤ t) ∧
    D.get "last_message" = M.get "text" ∧ ∃ at', D.get "last_message_at" = .int at' ∧ at' ≤ t

def AllPreviewsLatest (f : Firestore) : Prop :=
  ∀ c D, f.doc FirestoreCollection.conversation c = some D →
    PreviewsLatest (f.docs FirestoreCollection.message) c D

/-- Every message was created before the given time. -/
def CreatedBefore (messages : DartMap Doc) (t : ℤ) : Prop :=
  ∀ k M, messages.lookup k = some M → ∃ t', M.get "created_at" = .int t' ∧ t' < t

end Property

section Appending

variable {messages : DartMap Doc} {c c' k : String} {D M : Doc} {t : ℤ}

/-- A new message of another conversation does not matter. -/
theorem previewsLatest_insert_of_ne (hk : messages.lookup k = none)
    (hM : M.get "conversation_id" = .string c) (hc : c' ≠ c) :
    PreviewsLatest (messages.insert k M) c' D ↔ PreviewsLatest messages c' D := by
  have hlookup (k' : String) (M' : Doc) (hM' : M'.get "conversation_id" = .string c') :
      (messages.insert k M).lookup k' = some M' ↔ messages.lookup k' = some M' := by
    rw [FiniteMap.lookup_insert_eq_ite]
    split_ifs with hk'
    · subst hk'
      rw [hk]
      refine iff_of_false ?_ nofun
      rintro ⟨rfl⟩
      rw [hM] at hM'
      cases hM'
      exact hc rfl
    · rfl
  constructor
  · rintro ⟨k', M', t', hM', hcid, ht', hmax, hpreview⟩
    refine ⟨k', M', t', (hlookup k' M' hcid).mp hM', hcid, ht', ?_, hpreview⟩
    intro k'' M'' t'' hM'' hcid'' ht''
    exact hmax k'' M'' t'' ((hlookup k'' M'' hcid'').mpr hM'') hcid'' ht''
  · rintro ⟨k', M', t', hM', hcid, ht', hmax, hpreview⟩
    refine ⟨k', M', t', (hlookup k' M' hcid).mpr hM', hcid, ht', ?_, hpreview⟩
    intro k'' M'' t'' hM'' hcid'' ht''
    exact hmax k'' M'' t'' ((hlookup k'' M'' hcid'').mp hM'') hcid'' ht''

/-- A new message of the conversation is its latest. -/
theorem previewsLatest_insert_self (hbefore : CreatedBefore messages t)
    (hM : M.get "conversation_id" = .string c) (ht : M.get "created_at" = .int t) :
    PreviewsLatest (messages.insert k M) c D ↔ D.get "last_message" = M.get "text" ∧
      ∃ at', D.get "last_message_at" = .int at' ∧ at' ≤ t := by
  have hnew : (messages.insert k M).lookup k = some M := AList.lookup_insert messages
  -- a message of the extended collection is the new one or an older one
  have hcases (k' : String) (M' : Doc) (t' : ℤ)
      (hM' : (messages.insert k M).lookup k' = some M') (ht' : M'.get "created_at" = .int t') :
      (M' = M ∧ t' = t) ∨ t' < t := by
    by_cases hk' : k' = k
    · subst hk'
      rw [hnew] at hM'
      cases hM'
      rw [ht] at ht'
      cases ht'
      exact .inl ⟨rfl, rfl⟩
    · rw [AList.lookup_insert_ne hk'] at hM'
      obtain ⟨t'', ht'', hlt⟩ := hbefore k' M' hM'
      rw [ht'] at ht''
      cases ht''
      exact .inr hlt
  constructor
  · rintro ⟨k', M', t', hM', -, ht', hmax, hpreview⟩
    obtain ⟨rfl, rfl⟩ | hlt := hcases k' M' t' hM' ht'
    · exact hpreview
    · exact absurd (hmax k M t hnew hM ht) (not_le.mpr hlt)
  · intro hpreview
    refine ⟨k, M, t, hnew, hM, ht, ?_, hpreview⟩
    intro k' M' t' hM' _ ht'
    obtain ⟨-, rfl⟩ | hlt := hcases k' M' t' hM' ht'
    · exact le_rfl
    · exact hlt.le

theorem createdBefore_insert {t' : ℤ} (hbefore : CreatedBefore messages t)
    (hM : M.get "created_at" = .int t) (ht : t < t') : CreatedBefore (messages.insert k M) t' := by
  intro k' M' hM'
  rw [FiniteMap.lookup_insert_eq_ite] at hM'
  split_ifs at hM' with hk'
  · cases hM'
    exact ⟨t, hM, ht⟩
  · obtain ⟨t'', ht'', hlt⟩ := hbefore k' M' hM'
    exact ⟨t'', ht'', hlt.trans ht⟩

theorem CreatedBefore.mono {t' : ℤ} (h : CreatedBefore messages t) (ht : t ≤ t') :
    CreatedBefore messages t' := by
  intro k M hM
  obtain ⟨t'', ht'', hlt⟩ := h k M hM
  exact ⟨t'', ht'', hlt.trans_le ht⟩

end Appending

structure Sender where
  zone : Zone
  realm : Realm
  userId : Option String
  screen : BookPostingState

inductive MessageEvent
  | book (sender : Sender) (userId hostId postingName : String) (inDate outDate : DateTime)
  | chat (sender : Sender) (conversation : Option (Managed Conversation)) (text : String)

namespace MessageEvent

def sender : MessageEvent → Sender
  | book sender .. => sender
  | chat sender .. => sender

def program : MessageEvent → CubitM Unit
  | book sender userId hostId postingName inDate outDate =>
      ensureConversationAndSendMessage sender.zone userId hostId postingName inDate outDate
  | chat _ conversation text => ChatCubit.sendMessage conversation text

end MessageEvent

structure Inbox where
  remote : Firestore
  readings : ℕ

namespace Inbox

variable (ids : AutoId) (clock : ℕ → DateTime)

def environment (sender : Sender) : Environment :=
  ⟨sender.userId, fun _ _ _ => .error .unavailable, clock⟩

/-- A message is sent from beginning to end; one that fails is not a step. -/
def step (s : Inbox) (e : MessageEvent) : Option Inbox :=
  match Prog.exec (Device.serve e.sender.zone ids (environment clock e.sender)) e.program
    e.sender.screen ⟨⟨s.remote, e.sender.realm⟩, s.readings⟩ with
  | (.ok _, _, d) => some ⟨d.world.remote, d.readings⟩
  | (.error _, _, _) => none

/-- A chat message that is sent says what its conversation's preview says already. -/
def SaysNothingNew (s : Inbox) : MessageEvent → Prop
  | .book .. => True
  | .chat sender conversation text =>
      ∀ conv u, conversation = some conv → sender.userId = some u → (trim text).isEmpty = false →
        ∀ D, s.remote.doc FirestoreCollection.conversation conv.object.id = some D →
          D.get "last_message" = .string (trim text)

end Inbox

section Sending

variable {z : Zone} {ids : AutoId} {env : Environment} {d d' : Device}
  {st st' : BookPostingState}

structure Sent (c text : String) (t : ℤ) (f f' : Firestore) : Prop where
  conversations : f'.docs FirestoreCollection.conversation =
    f.docs FirestoreCollection.conversation
  message : ∃ k M, (f.docs FirestoreCollection.message).lookup k = none ∧
    f'.docs FirestoreCollection.message = (f.docs FirestoreCollection.message).insert k M ∧
    M.get "conversation_id" = .string c ∧ M.get "text" = .string text ∧
    M.get "created_at" = .int t

structure Previewed (c text : String) (t : ℤ) (f f' : Firestore) : Prop where
  messages : f'.docs FirestoreCollection.message = f.docs FirestoreCollection.message
  conversation : ∃ D, f'.docs FirestoreCollection.conversation =
      (f.docs FirestoreCollection.conversation).insert c D ∧
    D.get "last_message" = .string text ∧ D.get "last_message_at" = .int t

theorem exec_createMessage {c u text : String}
    (h : Prog.exec (Device.serve z ids env) (do
      let now ← Await.now
      let _ ← Await.createMessage (messageData c u text now)) st d = (.ok (), st', d')) :
    Sent c text (env.clock d.readings).millisecondsSinceEpoch d.world.remote d'.world.remote ∧
      d'.readings = d.readings + 1 := by
  obtain ⟨now, hnow, h⟩ := Prog.exec_call_bind_eq_ok h
  cases hnow
  obtain ⟨message, -, h⟩ := Prog.exec_call_bind_eq_ok h
  cases h
  have hremote : (Device.serve z ids env (.createMessage (messageData c u text
      (env.clock d.readings))) (Device.serve z ids env .now d).2).2.world.remote = _ :=
    createAndRead_remote
  refine ⟨⟨?_, ids.next (d.world.remote.docs FirestoreCollection.message).keys,
    (messageData c u text (env.clock d.readings)).insert "id"
      (.string (ids.next (d.world.remote.docs FirestoreCollection.message).keys)),
    ?_, ?_, rfl, rfl, rfl⟩, rfl⟩
  · rw [hremote]
    exact Firestore.docs_putDoc_of_ne _ _ _ _ (by decide)
  · exact AList.lookup_eq_none.mpr (ids.fresh _)
  · rw [hremote]
    exact Firestore.docs_putDoc_self _ _ _ _ _

theorem previewed_putDoc {c text : String} {t : ℤ} (f : Firestore) (D : Doc)
    (entry : FirestoreWrite) (htext : D.get "last_message" = .string text)
    (ht : D.get "last_message_at" = .int t) :
    Previewed c text t f (f.putDoc FirestoreCollection.conversation c D entry) where
  messages := Firestore.docs_putDoc_of_ne _ _ _ _ (by decide)
  conversation := ⟨D, Firestore.docs_putDoc_self _ _ _ _ _, htext, ht⟩

theorem get_payload_union (D : Doc) (now : DateTime) (text : String) (user : User) :
    Doc.get (lastMessagePayload now text user ∪ D) "last_message" = .string text ∧
      Doc.get (lastMessagePayload now text user ∪ D) "last_message_at" =
        .int now.millisecondsSinceEpoch := by
  have hmem (key : String) (v : Value)
      (h : (lastMessagePayload now text user).lookup key = some v) :
      Doc.get (lastMessagePayload now text user ∪ D) key = v := by
    rw [Doc.get_union, if_pos (FiniteMap.mem_of_lookup_eq_some h), Doc.get, h, Option.getD_some]
  exact ⟨hmem _ _ rfl, hmem _ _ rfl⟩

theorem isValid_of_serve_getUser {id : String} {user : Managed User}
    (h : (Device.serve z ids env (.getUser id) d).1 = .ok user) : user.isValid = true := by
  obtain ⟨u, -, rfl⟩ := (ExceptTraverse.map_eq_ok_iff _ _ _).mp h
  rfl

theorem serve_getConversation_remote (id : String) :
    (Device.serve z ids env (.getConversation id) d).2.world.remote = d.world.remote := by
  simp only [Device.serve, Device.answer_world, getConversation_world, getDoc_remote]

/-- An update that is answered well has merged its data. -/
theorem serve_updateConversation_remote {c : String} {data : Doc} {conv : Managed Conversation}
    (h : (Device.serve z ids env (.updateConversation c data) d).1 = .ok conv) :
    ∃ D, (Device.serve z ids env (.updateConversation c data) d).2.world.remote =
      d.world.remote.putDoc FirestoreCollection.conversation c (data ∪ D)
        (.update FirestoreCollection.conversation c) := by
  have hanswers : Answers env.userId (.updateConversation c data) d.world.remote
      (.ok conv) (Device.serve z ids env (.updateConversation c data) d).2.world.remote := by
    refine ⟨z, ids, env, .reply conv.isValid, 0, d, rfl, rfl, ?_, rfl⟩
    simp only [faulty, Call.isAwaited, if_true, h]
    rfl
  obtain ⟨-, e, he⟩ | ⟨D, -, hremote⟩ := hanswers.updateConversation
  · cases he
  · exact ⟨D, hremote⟩

theorem serve_createConversation_remote {c : String} {data : Doc} (hc : c ≠ "") :
    (Device.serve z ids env (.createConversation data (some c)) d).2.world.remote =
      d.world.remote.putDoc FirestoreCollection.conversation c (withId c data)
        (.set FirestoreCollection.conversation c) := by
  apply createAndRead_remote.trans
  simp only [newDoc, if_neg hc, Firestore.set]

/-- A booking message that completes stores the preview and appends the message afterwards. -/
theorem exec_booking {userId hostId postingName : String} {inDate outDate : DateTime}
    (h : Prog.exec (Device.serve z ids env) (ensureConversationAndSendMessage z userId hostId
      postingName inDate outDate) st d = (.ok (), st', d')) :
    ∃ f n, d.readings ≤ n ∧ d'.readings = n + 1 ∧
      Previewed (conversationId userId hostId) (messageText z postingName inDate outDate)
        (env.clock d.readings).millisecondsSinceEpoch d.world.remote f ∧
      Sent (conversationId userId hostId) (messageText z postingName inDate outDate)
        (env.clock n).millisecondsSinceEpoch f d'.world.remote := by
  unfold ensureConversationAndSendMessage at h
  obtain ⟨user, huser, h⟩ := Prog.exec_call_bind_eq_ok h
  rw [if_pos (isValid_of_serve_getUser huser)] at h
  obtain ⟨now, hnow, h⟩ := Prog.exec_call_bind_eq_ok h
  cases hnow
  obtain ⟨existing, -, h⟩ := Prog.exec_call_bind_eq_ok h
  have hremote : ∀ id, (Device.serve z ids env (.getConversation id) (Device.serve z ids env .now
      (Device.serve z ids env (.getUser userId) d).2).2).2.world.remote = d.world.remote := by
    intro id
    rw [serve_getConversation_remote]
    exact Device.serve_getUser_remote z ids env userId
  cases existing with
  | some conversation =>
      obtain ⟨conv, hconv, h⟩ := Prog.exec_call_bind_eq_ok h
      obtain ⟨D, hD⟩ := serve_updateConversation_remote hconv
      obtain ⟨hsent, hreadings⟩ := exec_createMessage h
      obtain ⟨htext, hat⟩ := get_payload_union D (env.clock d.readings)
        (messageText z postingName inDate outDate) user.object
      rw [hD, hremote] at hsent
      have hpreviewed := previewed_putDoc (c := conversationId userId hostId) d.world.remote _
        (.update FirestoreCollection.conversation (conversationId userId hostId)) htext hat
      exact ⟨_, d.readings + 1, Nat.le_succ _, hreadings, hpreviewed, hsent⟩
  | none =>
      obtain ⟨now', hnow', h⟩ := Prog.exec_call_bind_eq_ok h
      cases hnow'
      obtain ⟨conv, -, h⟩ := Prog.exec_call_bind_eq_ok h
      obtain ⟨hsent, hreadings⟩ := exec_createMessage h
      rw [serve_createConversation_remote (conversationId_ne_empty userId hostId)] at hsent
      have hnow : (Device.serve z ids env .now (Device.serve z ids env (.getConversation
          (conversationId userId hostId)) (Device.serve z ids env .now
          (Device.serve z ids env (.getUser userId) d).2).2).2).2.world.remote = d.world.remote :=
        hremote _
      rw [hnow] at hsent
      exact ⟨_, d.readings + 2, by omega, hreadings, previewed_putDoc _ _ _ rfl rfl, hsent⟩

/-- A chat message that completes is appended, unless there is nothing to send or nobody to send
it. -/
theorem exec_chat {conversation : Option (Managed Conversation)} {text : String}
    (h : Prog.exec (Device.serve z ids env) (ChatCubit.sendMessage conversation text) st d =
      (.ok (), st', d')) :
    (((trim text).isEmpty = true ∨ conversation = none ∨ env.userId = none) ∧ d' = d) ∨
      ∃ conv u, (trim text).isEmpty = false ∧ conversation = some conv ∧ env.userId = some u ∧
        Sent conv.object.id (trim text) (env.clock d.readings).millisecondsSinceEpoch
          d.world.remote d'.world.remote ∧ d'.readings = d.readings + 1 := by
  unfold ChatCubit.sendMessage at h
  dsimp only at h
  -- reduction would otherwise evaluate the trimmed text
  generalize trim text = trimmed at h ⊢
  cases hblank : trimmed.isEmpty with
  | true =>
      rw [hblank, if_pos rfl] at h
      cases h
      exact .inl ⟨.inl rfl, rfl⟩
  | false =>
      rw [hblank, if_neg Bool.false_ne_true] at h
      cases conversation with
      | none =>
          cases h
          exact .inl ⟨.inr (.inl rfl), rfl⟩
      | some conv =>
          obtain ⟨u, hu, h⟩ := Prog.exec_call_bind_eq_ok h
          cases hu
          cases huser : env.userId with
          | none =>
              rw [huser] at h
              cases h
              exact .inl ⟨.inr (.inr rfl), rfl⟩
          | some u =>
              rw [huser] at h
              cases hvalid : conv.isValid with
              | false =>
                  rw [hvalid] at h
                  cases h
              | true =>
                  rw [hvalid] at h
                  exact .inr ⟨conv, u, rfl, rfl, rfl, exec_createMessage h⟩

end Sending

section Previews

variable {f f' : Firestore} {c text : String} {t t' : ℤ}

theorem Sent.createdBefore (h : Sent c text t f f')
    (hbefore : CreatedBefore (f.docs FirestoreCollection.message) t) (ht : t < t') :
    CreatedBefore (f'.docs FirestoreCollection.message) t' := by
  obtain ⟨k, M, -, hmessages, -, -, hM⟩ := h.message
  rw [hmessages]
  exact createdBefore_insert hbefore hM ht

/-- After a message has been appended, the previews are the latest messages as before, and that of
its conversation must show it. -/
theorem Sent.allPreviewsLatest_iff (h : Sent c text t f f')
    (hbefore : CreatedBefore (f.docs FirestoreCollection.message) t) :
    AllPreviewsLatest f' ↔
      (∀ c' D, c' ≠ c → f.doc FirestoreCollection.conversation c' = some D →
        PreviewsLatest (f.docs FirestoreCollection.message) c' D) ∧
      ∀ D, f.doc FirestoreCollection.conversation c = some D →
        D.get "last_message" = .string text ∧
          ∃ at', D.get "last_message_at" = .int at' ∧ at' ≤ t := by
  obtain ⟨k, M, hk, hmessages, hcid, htext, hat⟩ := h.message
  have hdoc (c' : String) : f'.doc FirestoreCollection.conversation c' =
      f.doc FirestoreCollection.conversation c' := congrArg (AList.lookup c') h.conversations
  unfold AllPreviewsLatest
  simp only [hdoc, hmessages]
  constructor
  · intro hall
    constructor
    · intro c' D hc' hD
      exact (previewsLatest_insert_of_ne hk hcid hc').mp (hall c' D hD)
    · intro D hD
      have hshown := (previewsLatest_insert_self hbefore hcid hat).mp (hall c D hD)
      rwa [htext] at hshown
  · intro ⟨hothers, hself⟩ c' D hD
    by_cases hc' : c' = c
    · subst hc'
      apply (previewsLatest_insert_self hbefore hcid hat).mpr
      rw [htext]
      exact hself D hD
    · exact (previewsLatest_insert_of_ne hk hcid hc').mpr (hothers c' D hc' hD)

/-- When the preview has been stored just before, all is well. -/
theorem Sent.allPreviewsLatest_of_previewed {f₀ : Firestore} {t₀ : ℤ} (h : Sent c text t f f')
    (hbefore : CreatedBefore (f₀.docs FirestoreCollection.message) t)
    (hpreviewed : Previewed c text t₀ f₀ f) (ht : t₀ ≤ t) (hall : AllPreviewsLatest f₀) :
    AllPreviewsLatest f' := by
  obtain ⟨D, hconversations, htext, hat⟩ := hpreviewed.conversation
  have hdoc (c' : String) : f.doc FirestoreCollection.conversation c' =
      if c' = c then some D else f₀.doc FirestoreCollection.conversation c' := by
    unfold Firestore.doc
    rw [hconversations, FiniteMap.lookup_insert_eq_ite]
  rw [← hpreviewed.messages] at hbefore
  apply (h.allPreviewsLatest_iff hbefore).mpr
  constructor
  · intro c' D' hc' hD'
    rw [hdoc, if_neg hc'] at hD'
    rw [hpreviewed.messages]
    exact hall c' D' hD'
  · intro D' hD'
    rw [hdoc, if_pos rfl] at hD'
    cases hD'
    exact ⟨htext, t₀, hat, ht⟩

end Previews

namespace Inbox

variable {ids : AutoId} {clock : ℕ → DateTime} {s s' t : Inbox} {e : MessageEvent}

theorem step_eq_some (h : step ids clock s e = some s') : ∃ st d,
    Prog.exec (Device.serve e.sender.zone ids (environment clock e.sender)) e.program
      e.sender.screen ⟨⟨s.remote, e.sender.realm⟩, s.readings⟩ = (.ok (), st, d) ∧
    s' = ⟨d.world.remote, d.readings⟩ := by
  unfold step at h
  split at h
  · rename_i st d hexec
    exact ⟨st, d, hexec, (Option.some.inj h).symm⟩
  · cases h

def Past (clock : ℕ → DateTime) (s : Inbox) : Prop :=
  CreatedBefore (s.remote.docs FirestoreCollection.message)
    (clock s.readings).millisecondsSinceEpoch

variable (hclock : StrictMono (fun n => (clock n).millisecondsSinceEpoch))

include hclock

theorem Past.step (hpast : Past clock s) (h : step ids clock s e = some s') : Past clock s' := by
  obtain ⟨st, d, hexec, rfl⟩ := step_eq_some h
  cases e with
  | book sender userId hostId postingName inDate outDate =>
      obtain ⟨f, n, hn, hreadings, hpreviewed, hsent⟩ := exec_booking hexec
      unfold Past at hpast ⊢
      rw [hreadings]
      apply hsent.createdBefore _ (hclock (Nat.lt_succ_self n))
      rw [hpreviewed.messages]
      exact hpast.mono (hclock.monotone hn)
  | chat sender conversation text =>
      dsimp only [MessageEvent.program, MessageEvent.sender] at hexec
      obtain ⟨-, rfl⟩ | ⟨conv, u, -, -, -, hsent, hreadings⟩ := exec_chat hexec
      · exact hpast
      · unfold Past
        rw [hreadings]
        exact hsent.createdBefore hpast (hclock (Nat.lt_succ_self s.readings))

/-- A completed message keeps the previews the latest messages exactly when, if it is a chat
message, it says nothing new. -/
theorem allPreviewsLatest_step_iff (hpast : Past clock s) (hall : AllPreviewsLatest s.remote)
    (h : Inbox.step ids clock s e = some s') :
    AllPreviewsLatest s'.remote ↔ SaysNothingNew s e := by
  obtain ⟨st, d, hexec, rfl⟩ := step_eq_some h
  cases e with
  | book sender userId hostId postingName inDate outDate =>
      obtain ⟨f, n, hn, -, hpreviewed, hsent⟩ := exec_booking hexec
      have hn' := hclock.monotone hn
      exact iff_of_true (hsent.allPreviewsLatest_of_previewed (hpast.mono hn') hpreviewed hn' hall)
        trivial
  | chat sender conversation text =>
      dsimp only [MessageEvent.program, MessageEvent.sender] at hexec
      obtain ⟨hnothing, rfl⟩ | ⟨conv, u, htext, rfl, hu, hsent, -⟩ := exec_chat hexec
      · apply iff_of_true hall
        intro conv u hconv hu htext
        rcases hnothing with hblank | hnone | hnobody
        · rw [htext] at hblank
          cases hblank
        · rw [hnone] at hconv
          cases hconv
        · exact absurd (hnobody.symm.trans hu) nofun
      · rw [hsent.allPreviewsLatest_iff hpast]
        constructor
        · intro ⟨_, hself⟩ conv' u' hconv' _ _ D hD
          cases hconv'
          exact (hself D hD).1
        · intro hnothing
          constructor
          · intro c' D _ hD
            exact hall c' D hD
          · intro D hD
            obtain ⟨k, M, t', hM, -, ht', -, -, at', hat', hle⟩ := hall _ D hD
            obtain ⟨t'', ht'', hlt⟩ := hpast k M hM
            rw [ht'] at ht''
            cases ht''
            exact ⟨hnothing conv u rfl hu htext D hD, at', hat', hle.trans hlt.le⟩

end Inbox

/-- Messages are sent one after the other, the clock readings increasing. From a database whose
previews are the latest messages on, they are so after each message exactly when no chat message
says anything new. -/
theorem previews_latest_iff_nothing_new (ids : AutoId) (clock : ℕ → DateTime)
    (hclock : StrictMono (fun n => (clock n).millisecondsSinceEpoch)) (f : Firestore)
    (hpast : CreatedBefore (f.docs FirestoreCollection.message) (clock 0).millisecondsSinceEpoch)
    (hall : AllPreviewsLatest f) (es : List MessageEvent) (t : Inbox)
    (hrun : Execution.run (Inbox.step ids clock) ⟨f, 0⟩ es = some t) :
    Execution.Always (Inbox.step ids clock) (fun s => AllPreviewsLatest s.remote) ⟨f, 0⟩ es ↔
      Execution.StepsMeet (Inbox.step ids clock) Inbox.SaysNothingNew ⟨f, 0⟩ es := by
  have hpasts : Execution.Always (Inbox.step ids clock) (Inbox.Past clock) ⟨f, 0⟩ es :=
    Execution.always_of_step (fun s a s' hs h => hs.step hclock h) es hpast
  constructor
  · intro halways
    apply Execution.stepsMeet_of_always _ hrun (halways.and hpasts)
    intro s a s' ⟨hall, hpast⟩ h ⟨hall', _⟩
    exact (Inbox.allPreviewsLatest_step_iff hclock hpast hall h).mp hall'
  · intro hmeet
    have halways : Execution.Always (Inbox.step ids clock)
        (fun s => AllPreviewsLatest s.remote ∧ Inbox.Past clock s) ⟨f, 0⟩ es := by
      apply Execution.always_of_stepsMeet _ ⟨hall, hpast⟩ hmeet
      intro s a s' ⟨hall, hpast⟩ hnothing h
      exact ⟨(Inbox.allPreviewsLatest_step_iff hclock hpast hall h).mpr hnothing,
        hpast.step hclock h⟩
    exact halways.mono (fun s h => h.1)

section Villa

def villaGuest : Sender := ⟨Zone.utc, Realm.empty, some "g1", emptyScreen⟩

def villaRequest : MessageEvent :=
  .book villaGuest "g1" "h1" "Villa" ⟨0, false⟩ ⟨86400000000, false⟩

def villaChat (text : String) : MessageEvent :=
  .chat villaGuest (some ⟨⟨conversationId "g1" "h1", ∅, none, none, none, none, none⟩, true⟩) text

def villaClock (n : ℕ) : DateTime := ⟨n * 1000, false⟩

theorem strictMono_villaClock :
    StrictMono (fun n => (villaClock n).millisecondsSinceEpoch) := by
  intro m n hmn
  simp only [villaClock, DateTime.millisecondsSinceEpoch,
    Int.mul_tdiv_cancel _ (by norm_num : (1000 : ℤ) ≠ 0)]
  exact_mod_cast hmn

theorem createdBefore_guestOnly (t : ℤ) :
    CreatedBefore (guestOnly.docs FirestoreCollection.message) t := by
  intro k M hM
  cases hM

theorem allPreviewsLatest_guestOnly : AllPreviewsLatest guestOnly := by
  intro c D hD
  cases hD

/-- The guest's request is said again. -/
theorem previews_latest_iff_nothing_new_repeated : ∃ text t,
    Execution.run (Inbox.step AutoId.longer villaClock) ⟨guestOnly, 0⟩
      [villaRequest, villaChat text] = some t ∧
    (t.remote.doc FirestoreCollection.message "xx").isSome ∧
    Execution.Always (Inbox.step AutoId.longer villaClock) (fun s => AllPreviewsLatest s.remote)
      ⟨guestOnly, 0⟩ [villaRequest, villaChat text] := by
  refine ⟨"Hello, I want to book Villa from 1/1/1970 to 2/1/1970", _, rfl, rfl, ?_⟩
  apply (previews_latest_iff_nothing_new AutoId.longer villaClock strictMono_villaClock guestOnly
    (createdBefore_guestOnly _) allPreviewsLatest_guestOnly _ _ rfl).mpr
  apply Execution.stepsMeet_cons trivial rfl
  refine Execution.stepsMeet_cons ?_ rfl trivial
  intro conv u hconv _ _ D hD
  cases hconv
  cases hD
  rfl

/-- The guest asks for the villa and then writes something else. -/
theorem previews_latest_fails_after_chat : ∃ t,
    Execution.run (Inbox.step AutoId.longer villaClock) ⟨guestOnly, 0⟩
      [villaRequest, villaChat "See you"] = some t ∧ ¬ AllPreviewsLatest t.remote := by
  have hrequest : Inbox.step AutoId.longer villaClock ⟨guestOnly, 0⟩ villaRequest = some _ := rfl
  refine ⟨_, rfl, ?_⟩
  have hpast : Inbox.Past villaClock ⟨guestOnly, 0⟩ := createdBefore_guestOnly _
  have hall := (Inbox.allPreviewsLatest_step_iff strictMono_villaClock hpast
    allPreviewsLatest_guestOnly hrequest).mpr trivial
  intro hall'
  have hnothing := (@Inbox.allPreviewsLatest_step_iff AutoId.longer _ _ _ (villaChat "See you")
    strictMono_villaClock (hpast.step strictMono_villaClock hrequest) hall rfl).mp hall'
  cases hnothing _ "g1" rfl rfl rfl _ rfl

end Villa

end AirBnbClone
