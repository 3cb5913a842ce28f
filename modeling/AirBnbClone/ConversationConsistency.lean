import AirBnbClone.ChatCubit
import AirBnbClone.ConversationId
import AirBnbClone.Execution
import AirBnbClone.RelyGuarantee
import AirBnbClone.SaveBookingFaults

/-!
# Conversations and messages of concurrent clients

Any number of clients send booking messages and chat messages, their calls interleaved in any way
and any of them failing. A client decides between creating and updating a conversation by a read
made earlier, so creations race with each other and with updates. The conversation's id determines
its members, hence an overwriting creation writes the members that were there; an update does not
touch them; and a message is created only after its conversation.
-/

namespace AirBnbClone

open Async FireStoreService BookPostingCubit

section Answers

/-- The call may be answered by `r`, on a device of the user, and leave `f'`. Nothing is known of
the device's local store. -/
def Answers (user : Option String) (op : Call) (f : Firestore) (r : Except DartError (Reply op))
    (f' : Firestore) : Prop :=
  ∃ z ids env outcome n d, env.userId = user ∧ d.world.remote = f ∧
    (faulty (fun _ => outcome) (Device.serve z ids env) op (n, d)).1 = r ∧
    (faulty (fun _ => outcome) (Device.serve z ids env) op (n, d)).2.2.world.remote = f'

variable {user : Option String} {op : Call} {f f' : Firestore} {r : Except DartError (Reply op)}

/-- An answer is lost with the call's effect, or the call takes effect. -/
theorem faulty_cases (outcome : Outcome) (n : ℕ) (d : Device)
    (handle : (call : Call) → Device → Except DartError (Reply call) × Device) (op : Call) :
    ((faulty (fun _ => outcome) handle op (n, d)).2.2 = d ∧
        ∃ e, (faulty (fun _ => outcome) handle op (n, d)).1 = .error e) ∨
      ((faulty (fun _ => outcome) handle op (n, d)).2.2 = (handle op d).2 ∧
        ∀ a, (faulty (fun _ => outcome) handle op (n, d)).1 = .ok a →
          ∃ b, (handle op d).1 = .ok b) := by
  cases hop : op.isAwaited with
  | false =>
      simp only [faulty, hop, Bool.false_eq_true, if_false]
      exact .inr ⟨trivial, fun a h => ⟨a, h⟩⟩
  | true =>
      cases outcome with
      | reply isValid =>
          simp only [faulty, hop, if_true]
          refine .inr ⟨trivial, ?_⟩
          intro a h
          obtain ⟨b, hb, -⟩ := (ExceptTraverse.map_eq_ok_iff _ _ _).mp h
          exact ⟨b, hb⟩
      | fail applied =>
          cases applied with
          | false =>
              simp only [faulty, hop, Bool.false_eq_true, if_true, if_false]
              exact .inl ⟨trivial, _, rfl⟩
          | true =>
              simp only [faulty, hop, if_true]
              refine .inr ⟨trivial, ?_⟩
              intro a h
              cases h

theorem Answers.unchanged (h : Answers user op f r f') (hop : op.collection = none) : f' = f := by
  obtain ⟨z, ids, env, outcome, n, d, -, rfl, -, rfl⟩ := h
  rcases faulty_cases outcome n d (Device.serve z ids env) op with ⟨h, -⟩ | ⟨h, -⟩
  · rw [h]
  · rw [h]
    have hstores : Device.StoresAtMostOne op d.world.remote
        (Device.serve z ids env op d).2.world.remote := Device.serve_storesAtMostOne op d
    rcases hstores with h | ⟨c, _, _, _, hc, -⟩
    · exact h
    · rw [hop] at hc
      cases hc

theorem Answers.user_eq {r : Except DartError (Reply .userId)} {u : Option String}
    (h : Answers user .userId f r f') (hr : r = .ok u) : u = user := by
  obtain ⟨z, ids, env, outcome, n, d, rfl, -, rfl, -⟩ := h
  cases outcome with
  | reply isValid => exact (Except.ok.inj hr).symm
  | fail applied => cases hr

/-- A creation that is answered well has stored its document. -/
theorem Answers.createConversation {data : Doc} {c : String} (hc : c ≠ "")
    {r : Except DartError (Reply (.createConversation data (some c)))}
    (h : Answers user (.createConversation data (some c)) f r f') :
    (f' = f ∧ ∃ e, r = .error e) ∨
      f' = f.set FirestoreCollection.conversation c (withId c data) := by
  obtain ⟨z, ids, env, outcome, n, d, -, rfl, rfl, rfl⟩ := h
  rcases faulty_cases outcome n d (Device.serve z ids env) (.createConversation data (some c)) with
    ⟨h, hr⟩ | ⟨h, -⟩
  · exact .inl ⟨congrArg (fun d => d.world.remote) h, hr⟩
  · refine .inr ?_
    rw [h]
    apply createAndRead_remote.trans
    simp only [newDoc, if_neg hc]

theorem Answers.updateConversation {data : Doc} {c : String}
    {r : Except DartError (Reply (.updateConversation c data))}
    (h : Answers user (.updateConversation c data) f r f') :
    (f' = f ∧ ∃ e, r = .error e) ∨ ∃ D, f.doc FirestoreCollection.conversation c = some D ∧
      f' = f.putDoc FirestoreCollection.conversation c (data ∪ D)
        (.update FirestoreCollection.conversation c) := by
  obtain ⟨z, ids, env, outcome, n, d, -, rfl, rfl, rfl⟩ := h
  rcases faulty_cases outcome n d (Device.serve z ids env) (.updateConversation c data) with
    ⟨h, hr⟩ | ⟨h, hr⟩
  · exact .inl ⟨congrArg (fun d => d.world.remote) h, hr⟩
  · rw [h]
    rcases updateAndRead_cases z .conversation FirestoreCollection.conversation c data
      "Failed to retrieve updated conversation from local storage" d.world with
      ⟨-, hnone⟩ | ⟨D, hD, hupdate⟩
    · have hremote : (Device.serve z ids env (.updateConversation c data) d).2.world.remote =
          d.world.remote := by
        change (ConversationRepository.updateConversation z c data d.world).2.remote = _
        rw [ConversationRepository.updateConversation, hnone]
      refine .inl ⟨hremote, ?_⟩
      cases hreply : (faulty (fun _ => outcome) (Device.serve z ids env)
        (.updateConversation c data) (n, d)).1 with
      | error e => exact ⟨e, rfl⟩
      | ok a =>
          obtain ⟨b, hb⟩ := hr a hreply
          have herror : (Device.serve z ids env (.updateConversation c data) d).1 =
              .error .notFound := Device.answer_eq_error (congrArg Prod.fst hnone)
          rw [herror] at hb
          cases hb
    · exact .inr ⟨D, hD, hupdate⟩

/-- A new message gets an id that is not in use. -/
theorem Answers.createMessage {data : Doc} {r : Except DartError (Reply (.createMessage data))}
    (h : Answers user (.createMessage data) f r f') :
    f' = f ∨ ∃ k, f.doc FirestoreCollection.message k = none ∧
      f' = f.set FirestoreCollection.message k (data.insert "id" (.string k)) := by
  obtain ⟨z, ids, env, outcome, n, d, -, rfl, rfl, rfl⟩ := h
  rcases faulty_cases outcome n d (Device.serve z ids env) (.createMessage data) with
    ⟨h, -⟩ | ⟨h, -⟩
  · exact .inl (congrArg (fun d => d.world.remote) h)
  · refine .inr ⟨ids.next (d.world.remote.docs FirestoreCollection.message).keys, ?_, ?_⟩
    · exact AList.lookup_eq_none.mpr (ids.fresh _)
    · rw [h]
      exact createAndRead_remote

end Answers

section Members

def members (D : Doc) : Finset String :=
  match Cast.stringSet (D.get "members") with
  | .ok s => s
  | .error _ => ∅

theorem members_newConversationData (c userId hostId : String) (now now' : DateTime) (text : String)
    (user : User) : members (withId c (newConversationData userId hostId now'
      (lastMessagePayload now text user))) = {userId, hostId} := by
  change [userId, hostId].toFinset = {userId, hostId}
  rw [List.toFinset_cons, List.toFinset_cons, List.toFinset_nil, insert_empty_eq]

theorem members_union (D : Doc) (now : DateTime) (text : String) (user : User) :
    members (lastMessagePayload now text user ∪ D) = members D := by
  have hget : Doc.get (lastMessagePayload now text user ∪ D) "members" = D.get "members" := by
    rw [Doc.get_union, if_neg]
    rw [FiniteMap.mem_iff_lookup_ne_none, not_not]
    rfl
  unfold members
  rw [hget]

end Members

/-- Conversations are stored under the id of their members, and messages belong to conversations of
their senders. -/
structure ChatsConsistent (f : Firestore) : Prop where
  conversations : ∀ c D, f.doc FirestoreCollection.conversation c = some D →
    ∃ a b, NoDash a ∧ NoDash b ∧ c = conversationId a b ∧ members D = {a, b}
  messages : ∀ k M, f.doc FirestoreCollection.message k = some M →
    ∃ c u D, M.get "conversation_id" = .string c ∧ M.get "sender_id" = .string u ∧
      f.doc FirestoreCollection.conversation c = some D ∧ u ∈ members D

def KeepsMembers (f f' : Firestore) : Prop :=
  ∀ c D, f.doc FirestoreCollection.conversation c = some D →
    ∃ D', f'.doc FirestoreCollection.conversation c = some D' ∧ members D' = members D

section Growth

variable {f f' f'' : Firestore}

theorem KeepsMembers.refl (f : Firestore) : KeepsMembers f f := fun _ D hD => ⟨D, hD, rfl⟩

theorem KeepsMembers.trans (h : KeepsMembers f f') (h' : KeepsMembers f' f'') :
    KeepsMembers f f'' := by
  intro c D hD
  obtain ⟨D', hD', hmembers⟩ := h c D hD
  obtain ⟨D'', hD'', hmembers'⟩ := h' c D' hD'
  exact ⟨D'', hD'', hmembers'.trans hmembers⟩

/-- The members of a stored conversation are those its id is made of. -/
theorem ChatsConsistent.members_eq (h : ChatsConsistent f) {a b c : String} {D : Doc}
    (ha : NoDash a) (hb : NoDash b) (hc : c = conversationId a b)
    (hD : f.doc FirestoreCollection.conversation c = some D) : members D = {a, b} := by
  obtain ⟨a', b', ha', hb', hc', hmembers⟩ := h.conversations c D hD
  obtain ⟨rfl, rfl⟩ | ⟨rfl, rfl⟩ :=
    members_of_conversationId_eq ha hb ha' hb' (hc.symm.trans hc')
  · exact hmembers
  · rw [hmembers, Finset.pair_comm]

def HasMember (f : Firestore) (c u : String) : Prop :=
  ∃ D, f.doc FirestoreCollection.conversation c = some D ∧ u ∈ members D

theorem HasMember.mono {c u : String} (h : HasMember f c u) (hkeeps : KeepsMembers f f') :
    HasMember f' c u := by
  obtain ⟨D, hD, hu⟩ := h
  obtain ⟨D', hD', hmembers⟩ := hkeeps c D hD
  exact ⟨D', hD', hmembers ▸ hu⟩

theorem hasMember_putDoc (f : Firestore) (c : String) {a b : String} {D : Doc}
    (entry : FirestoreWrite) (hD : members D = {a, b}) :
    HasMember (f.putDoc FirestoreCollection.conversation c D entry) c a := by
  refine ⟨D, ?_, ?_⟩
  · rw [Firestore.doc_putDoc, if_pos ⟨rfl, rfl⟩]
  · rw [hD]
    exact Finset.mem_insert_self a {b}

/-- Storing a conversation under the id of its members, whether it was there or not. -/
theorem ChatsConsistent.putConversation (h : ChatsConsistent f) {a b : String} {D : Doc}
    {entry : FirestoreWrite} (ha : NoDash a) (hb : NoDash b) (hD : members D = {a, b}) :
    ChatsConsistent (f.putDoc FirestoreCollection.conversation (conversationId a b) D entry) ∧
      KeepsMembers f
        (f.putDoc FirestoreCollection.conversation (conversationId a b) D entry) := by
  have hkeeps : KeepsMembers f
      (f.putDoc FirestoreCollection.conversation (conversationId a b) D entry) := by
    intro c D' hD'
    rw [Firestore.doc_putDoc]
    split_ifs with hc
    · refine ⟨D, rfl, ?_⟩
      rw [hD, h.members_eq ha hb hc.2 hD']
    · exact ⟨D', hD', rfl⟩
  refine ⟨⟨?_, ?_⟩, hkeeps⟩
  · intro c D' hD'
    rw [Firestore.doc_putDoc] at hD'
    split_ifs at hD' with hc
    · cases hD'
      exact ⟨a, b, ha, hb, hc.2, hD⟩
    · exact h.conversations c D' hD'
  · intro k M hM
    rw [Firestore.doc_putDoc, if_neg (fun hc => absurd hc.1 (by decide))] at hM
    obtain ⟨c, u, D', hcid, hsender, hD', hu⟩ := h.messages k M hM
    obtain ⟨D'', hD'', hmembers⟩ := hkeeps c D' hD'
    exact ⟨c, u, D'', hcid, hsender, hD'', hmembers ▸ hu⟩

/-- Storing a message of a member. -/
theorem ChatsConsistent.putMessage (h : ChatsConsistent f) {c u k text : String} {now : DateTime}
    {entry : FirestoreWrite} (hmember : HasMember f c u) :
    ChatsConsistent (f.putDoc FirestoreCollection.message k
        ((messageData c u text now).insert "id" (.string k)) entry) ∧
      KeepsMembers f (f.putDoc FirestoreCollection.message k
        ((messageData c u text now).insert "id" (.string k)) entry) := by
  have hconversation (c' : String) : (f.putDoc FirestoreCollection.message k
      ((messageData c u text now).insert "id" (.string k)) entry).doc
        FirestoreCollection.conversation c' = f.doc FirestoreCollection.conversation c' := by
    rw [Firestore.doc_putDoc, if_neg (fun hc => absurd hc.1 (by decide))]
  refine ⟨⟨?_, ?_⟩, ?_⟩
  · intro c' D hD
    rw [hconversation] at hD
    exact h.conversations c' D hD
  · intro k' M hM
    rw [Firestore.doc_putDoc] at hM
    split_ifs at hM with hk
    · cases hM
      obtain ⟨D, hD, hu⟩ := hmember
      exact ⟨c, u, D, rfl, rfl, (hconversation c).trans hD, hu⟩
    · obtain ⟨c', u', D, hcid, hsender, hD, hu⟩ := h.messages k' M hM
      exact ⟨c', u', D, hcid, hsender, (hconversation c').trans hD, hu⟩
  · intro c' D hD
    exact ⟨D, (hconversation c').trans hD, rfl⟩

end Growth

section Programs

variable {σ : Type} {user : Option String} {f : Firestore}

/-- Sending a message to a conversation that has the sender as a member. -/
theorem safe_createMessage {c u text : String} (h : HasMember f c u) :
    Prog.Safe ChatsConsistent KeepsMembers (Answers user) (σ := σ) (do
      let now ← Await.now
      let _ ← Await.createMessage (messageData c u text now)) f := by
  apply Prog.safe_read_bind KeepsMembers.refl (fun _ _ _ h => h.unchanged rfl)
  intro f₁ now hf₁ hinv₁ _
  apply Prog.safe_call_bind
  intro f₂ hf₂ hinv₂ r f₃ hanswer
  have hmember := (h.mono hf₁).mono hf₂
  rcases hanswer.createMessage with rfl | ⟨k, -, rfl⟩
  · exact ⟨hinv₂, KeepsMembers.refl _, fun _ _ => trivial⟩
  · obtain ⟨hinv₃, hkeeps⟩ := hinv₂.putMessage hmember
    exact ⟨hinv₃, hkeeps, fun _ _ => trivial⟩

theorem safe_sendMessage {conversation : Option (Managed Conversation)}
    (h : ∀ conv u, conversation = some conv → user = some u → HasMember f conv.object.id u)
    (text : String) : Prog.Safe ChatsConsistent KeepsMembers (Answers user)
      (ChatCubit.sendMessage conversation text : Prog Reply σ DartError Unit) f := by
  unfold ChatCubit.sendMessage
  dsimp only
  -- the test is not to be evaluated on a variable text
  generalize (trim text).isEmpty = blank
  cases blank with
  | true => trivial
  | false =>
      cases conversation with
      | none => trivial
      | some conv =>
          apply Prog.safe_read_bind KeepsMembers.refl (fun _ _ _ h => h.unchanged rfl)
          intro f₁ u hf₁ _ hanswer
          cases u with
          | none => trivial
          | some u =>
              have hmember := h conv u rfl (hanswer.user_eq rfl).symm
              dsimp only
              split_ifs
              · exact safe_createMessage (hmember.mono hf₁)
              · trivial

theorem safe_ensureConversationAndSendMessage (z : Zone) {userId hostId : String}
    (hguest : NoDash userId) (hhost : NoDash hostId) (postingName : String)
    (inDate outDate : DateTime) (f : Firestore) :
    Prog.Safe ChatsConsistent KeepsMembers (Answers user)
      (ensureConversationAndSendMessage z userId hostId postingName inDate outDate) f := by
  unfold ensureConversationAndSendMessage
  apply Prog.safe_read_bind KeepsMembers.refl (fun _ _ _ h => h.unchanged rfl)
  intro f₁ currentUser _ _ _
  dsimp only
  split_ifs
  swap
  · trivial
  apply Prog.safe_read_bind KeepsMembers.refl (fun _ _ _ h => h.unchanged rfl)
  intro f₂ now _ _ _
  apply Prog.safe_read_bind KeepsMembers.refl (fun _ _ _ h => h.unchanged rfl)
  intro f₃ existing _ _ _
  cases existing with
  | some conversation =>
      apply Prog.safe_call_bind
      intro f₄ _ hinv₄ r f₅ hanswer
      obtain ⟨rfl, e, rfl⟩ | ⟨D, hD, rfl⟩ := hanswer.updateConversation
      · exact ⟨hinv₄, KeepsMembers.refl _, nofun⟩
      · have hmembers := members_union D now (messageText z postingName inDate outDate)
          currentUser.object
        rw [hinv₄.members_eq hguest hhost rfl hD] at hmembers
        obtain ⟨hinv₅, hkeeps⟩ := hinv₄.putConversation hguest hhost hmembers
        have hmember := hasMember_putDoc f₄ (conversationId userId hostId)
          (.update FirestoreCollection.conversation (conversationId userId hostId)) hmembers
        exact ⟨hinv₅, hkeeps, fun _ _ => safe_createMessage hmember⟩
  | none =>
      apply Prog.safe_read_bind KeepsMembers.refl (fun _ _ _ h => h.unchanged rfl)
      intro f₄ now' _ _ _
      apply Prog.safe_call_bind
      intro f₅ _ hinv₅ r f₆ hanswer
      obtain ⟨rfl, e, rfl⟩ | rfl := hanswer.createConversation (conversationId_ne_empty _ _)
      · exact ⟨hinv₅, KeepsMembers.refl _, nofun⟩
      · have hmembers := members_newConversationData (conversationId userId hostId) userId hostId
          now now' (messageText z postingName inDate outDate) currentUser.object
        obtain ⟨hinv₆, hkeeps⟩ := hinv₅.putConversation hguest hhost hmembers
        have hmember := hasMember_putDoc f₅ (conversationId userId hostId)
          (.set FirestoreCollection.conversation (conversationId userId hostId)) hmembers
        exact ⟨hinv₆, hkeeps, fun _ _ => safe_createMessage hmember⟩

end Programs

structure ChatDevice where
  realm : Realm
  readings : ℕ

structure Chats (ι : Type) where
  pool : Prog.Pool ι Reply BookPostingState DartError Unit Firestore
  devices : ι → ChatDevice

/-- Between its calls a client's local store may change in any way: snapshots arrive, other
functions of the app run, the user signs out. -/
inductive ChatAction (ι : Type)
  | book (i : ι) (userId hostId postingName : String) (inDate outDate : DateTime)
  | send (i : ι) (conversation : Option (Managed Conversation)) (text : String)
  | answer (i : ι) (outcome : Outcome)
  | changeLocally (i : ι) (realm : Realm)

namespace Chats

variable {ι : Type} (zone : ι → Zone) (ids : AutoId) (env : ι → Environment)

def isIdle (s : Chats ι) (i : ι) : Bool :=
  match (s.pool.processes i).1 with
  | .done _ => true
  | _ => false

/-- The chat is opened on a conversation that the signed-in user is a member of. -/
def maySend (s : Chats ι) (i : ι) (conversation : Option (Managed Conversation)) : Bool :=
  match conversation, (env i).userId with
  | some conv, some u =>
      match s.pool.shared.doc FirestoreCollection.conversation conv.object.id with
      | some D => decide (u ∈ members D)
      | none => false
  | _, _ => true

variable [DecidableEq ι]

def begin (s : Chats ι) (i : ι) (prog : CubitM Unit) : Chats ι :=
  { s with pool :=
      s.pool.move i s.pool.shared (Prog.settle prog (s.pool.processes i).2) }

/-- A client that is idle starts a function; a client that waits gets an answer. -/
def step (s : Chats ι) : ChatAction ι → Option (Chats ι)
  | .book i userId hostId postingName inDate outDate =>
      if s.isIdle i ∧ NoDash userId ∧ NoDash hostId then
        some (s.begin i
          (ensureConversationAndSendMessage (zone i) userId hostId postingName inDate outDate))
      else none
  | .send i conversation text =>
      if s.isIdle i ∧ s.maySend env i conversation then
        some (s.begin i (ChatCubit.sendMessage conversation text))
      else none
  | .answer i outcome =>
      match s.pool.processes i with
      | (.await call k, state) =>
          let device : Device := ⟨⟨s.pool.shared, (s.devices i).realm⟩, (s.devices i).readings⟩
          let (reply, _, device') := faulty (fun _ => outcome) (Device.serve (zone i) ids (env i))
            call (0, device)
          some
            { pool := s.pool.move i device'.world.remote (Prog.settle (k reply) state)
              devices := Function.update s.devices i ⟨device'.world.realm, device'.readings⟩ }
      | _ => none
  | .changeLocally i realm =>
      some { s with devices := Function.update s.devices i ⟨realm, (s.devices i).readings⟩ }

def start (f : Firestore) (state : ι → BookPostingState) (devices : ι → ChatDevice) : Chats ι :=
  ⟨⟨f, fun i => (.done (.ok ()), state i)⟩, devices⟩

def Sound (s : Chats ι) : Prop :=
  s.pool.Sound ChatsConsistent KeepsMembers (fun i => Answers (env i).userId)

variable {zone ids env} {s s' : Chats ι}

omit [DecidableEq ι] in
theorem sound_start {f : Firestore} {state : ι → BookPostingState} {devices : ι → ChatDevice}
    (hconversations : f.docs FirestoreCollection.conversation = ∅)
    (hmessages : f.docs FirestoreCollection.message = ∅) :
    (start f state devices).Sound env := by
  refine ⟨⟨?_, ?_⟩, fun i => trivial⟩
  · intro c D hD
    unfold Firestore.doc at hD
    rw [show (start f state devices).pool.shared.docs FirestoreCollection.conversation = ∅ from
      hconversations, AList.lookup_empty] at hD
    cases hD
  · intro k M hM
    unfold Firestore.doc at hM
    rw [show (start f state devices).pool.shared.docs FirestoreCollection.message = ∅ from
      hmessages, AList.lookup_empty] at hM
    cases hM

theorem Sound.step (h : s.Sound env) {a : ChatAction ι} (hstep : s.step zone ids env a = some s') :
    KeepsMembers s.pool.shared s'.pool.shared ∧ s'.Sound env := by
  cases a with
  | book i userId hostId postingName inDate outDate =>
      simp only [Chats.step] at hstep
      split_ifs at hstep with hguard
      cases hstep
      refine ⟨KeepsMembers.refl _, ?_⟩
      exact Prog.Pool.Sound.begin h
        (safe_ensureConversationAndSendMessage (zone i) hguard.2.1 hguard.2.2 _ _ _ _) _
  | send i conversation text =>
      simp only [Chats.step] at hstep
      split_ifs at hstep with hguard
      cases hstep
      have hmember : ∀ conv u, conversation = some conv → (env i).userId = some u →
          HasMember s.pool.shared conv.object.id u := by
        intro conv u hconv hu
        have hmay := hguard.2
        simp only [maySend, hconv, hu] at hmay
        split at hmay
        · exact ⟨_, ‹_›, of_decide_eq_true hmay⟩
        · cases hmay
      exact ⟨KeepsMembers.refl _, Prog.Pool.Sound.begin h (safe_sendMessage hmember text) _⟩
  | answer i outcome =>
      simp only [Chats.step] at hstep
      split at hstep
      · rename_i call k state hprocess
        cases hstep
        have hprog : (s.pool.processes i).1 = .await call k := by rw [hprocess]
        exact Prog.Pool.Sound.answer KeepsMembers.refl (fun _ _ _ => KeepsMembers.trans) h hprog
          ⟨zone i, ids, env i, outcome, 0, _, rfl, rfl, rfl, rfl⟩ state
      · cases hstep
  | changeLocally i realm =>
      cases hstep
      exact ⟨KeepsMembers.refl _, h⟩

theorem Sound.run (h : s.Sound env) {as : List (ChatAction ι)}
    (hrun : Execution.run (Chats.step zone ids env) s as = some s') :
    KeepsMembers s.pool.shared s'.pool.shared ∧ s'.Sound env := by
  induction as generalizing s with
  | nil =>
      cases hrun
      exact ⟨KeepsMembers.refl _, h⟩
  | cons a as ih =>
      obtain ⟨t, hstep, hrest⟩ := Execution.run_cons_eq_some hrun
      obtain ⟨hkeeps, ht⟩ := h.step hstep
      obtain ⟨hkeeps', hs'⟩ := ih ht hrest
      exact ⟨hkeeps.trans hkeeps', hs'⟩

end Chats

/-- Two conversations with the same members have the same id. -/
theorem ChatsConsistent.id_eq_of_members {f : Firestore} (h : ChatsConsistent f) {c c' : String}
    {D D' : Doc} (hD : f.doc FirestoreCollection.conversation c = some D)
    (hD' : f.doc FirestoreCollection.conversation c' = some D')
    (hmembers : members D = members D') : c = c' := by
  obtain ⟨a, b, -, -, rfl, hab⟩ := h.conversations c D hD
  obtain ⟨a', b', -, -, rfl, hab'⟩ := h.conversations c' D' hD'
  have hpairs := congrArg (fun m : Finset String => (m : Set String)) hmembers
  simp only [hab, hab', Finset.coe_pair] at hpairs
  obtain ⟨rfl, rfl⟩ | ⟨rfl, rfl⟩ := Set.pair_eq_pair_iff.mp hpairs
  · rfl
  · exact conversationId_swap a b

/-- From a database without conversations and messages on, conversations are stored under the id of
their members, one for each pair; none is lost or changes its members; and every message names a
conversation that has its sender as a member. -/
theorem conversations_consistent {ι : Type} [DecidableEq ι] (zone : ι → Zone) (ids : AutoId)
    (env : ι → Environment) (f : Firestore) (state : ι → BookPostingState)
    (devices : ι → ChatDevice) (as bs : List (ChatAction ι)) (s s' : Chats ι)
    (hconversations : f.docs FirestoreCollection.conversation = ∅)
    (hmessages : f.docs FirestoreCollection.message = ∅)
    (hs : Execution.run (Chats.step zone ids env) (Chats.start f state devices) as = some s)
    (hs' : Execution.run (Chats.step zone ids env) s bs = some s') :
    (∀ c D, s.pool.shared.doc FirestoreCollection.conversation c = some D →
      ∃ a b, c = conversationId a b ∧ members D = {a, b}) ∧
    (∀ c c' D D', s.pool.shared.doc FirestoreCollection.conversation c = some D →
      s.pool.shared.doc FirestoreCollection.conversation c' = some D' → members D = members D' →
      c = c') ∧
    (∀ c D, s.pool.shared.doc FirestoreCollection.conversation c = some D →
      ∃ D', s'.pool.shared.doc FirestoreCollection.conversation c = some D' ∧
        members D' = members D) ∧
    ∀ k M, s.pool.shared.doc FirestoreCollection.message k = some M →
      ∃ c u D, M.get "conversation_id" = .string c ∧ M.get "sender_id" = .string u ∧
        s.pool.shared.doc FirestoreCollection.conversation c = some D ∧ u ∈ members D := by
  obtain ⟨-, hsound⟩ := (Chats.sound_start hconversations hmessages).run hs
  obtain ⟨hkeeps, -⟩ := hsound.run hs'
  refine ⟨?_, fun c c' D D' => hsound.holds.id_eq_of_members, hkeeps, hsound.holds.messages⟩
  intro c D hD
  obtain ⟨a, b, -, -, hc, hmembers⟩ := hsound.holds.conversations c D hD
  exact ⟨a, b, hc, hmembers⟩

section BothMembers

def guestOnly : Firestore :=
  ⟨Function.update (fun _ => ∅) FirestoreCollection.user
    (DartMap.ofList [("g1", DartMap.ofList [("id", .string "g1")])]), []⟩

def emptyScreen : BookPostingState :=
  ⟨"", "check_in", ∅, ⟨0, false⟩, ⟨0, false⟩, none, none, false, ∅⟩

def member (isGuest : Bool) : String := if isGuest then "g1" else "h1"

def memberEnvironment (isGuest : Bool) : Environment :=
  ⟨some (member isGuest), fun _ _ _ => .error .unavailable, fun n => ⟨n * 1000, false⟩⟩

def guestAndHostOnly : Firestore :=
  guestOnly.set FirestoreCollection.user "h1" (DartMap.ofList [("id", .string "h1")])

def bothBook : List (ChatAction Bool) :=
  [true, false].map (fun isGuest => .book isGuest (member isGuest) (member !isGuest) "Villa"
      ⟨0, false⟩ ⟨86400000000, false⟩) ++
    (List.replicate 7 [true, false]).flatten.map (fun isGuest => .answer isGuest (.reply true))

/-- Both members find no conversation and create it, and each sends a message to it. -/
theorem conversations_consistent_bothMembers : ∃ s,
    Execution.run (Chats.step (fun _ => Zone.utc) AutoId.longer memberEnvironment)
      (Chats.start guestAndHostOnly (fun _ => emptyScreen) (fun _ => ⟨Realm.empty, 0⟩)) bothBook =
        some s ∧
    (s.pool.shared.docs FirestoreCollection.conversation).keys = ["g1-h1"] ∧
    (s.pool.shared.docs FirestoreCollection.message).keys = ["xx", "x"] ∧
    ∀ k M, s.pool.shared.doc FirestoreCollection.message k = some M →
      ∃ c u D, M.get "conversation_id" = .string c ∧ M.get "sender_id" = .string u ∧
        s.pool.shared.doc FirestoreCollection.conversation c = some D ∧ u ∈ members D :=
  ⟨_, rfl, rfl, rfl, (conversations_consistent (fun _ => Zone.utc) AutoId.longer memberEnvironment
    guestAndHostOnly (fun _ => emptyScreen) (fun _ => ⟨Realm.empty, 0⟩) bothBook [] _ _
    rfl rfl rfl rfl).2.2.2⟩

end BothMembers

end AirBnbClone
