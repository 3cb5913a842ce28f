import AirBnbClone.LiveLists

/-!
# Both sides of a conversation

The members of a conversation read it on devices of their own, in zones of their own. Snapshots,
other writes and notices reach each device at other times and in another order, and a device may
have got the messages in other portions. Once the devices have settled on the same remote messages
they show the same list, in the order in which the messages were sent.
-/

namespace AirBnbClone

open Debounce FirestoreMapper RealmService

/-- A device with an open chat: what has happened on it so far, and when. -/
structure ChatReader where
  zone : Zone
  realm : Realm
  debounce : Operator
  events : List (Timed SyncEvent)
  notices : List (Timed Unit)

def sentMessages (conversationId : String) (docs : DartMap Doc) : DartMap Doc :=
  (MessageRepository.messagesQuery conversationId).build.results docs

namespace ChatReader

variable (d : ChatReader) (conversationId : String)

def messages (t : ℕ) : List Message :=
  ListScreen.resultsAt d.zone (.chat conversationId) d.realm d.events t

/-- The messages that the device had at first have come from the remote database since, what other
functions wrote has left the messages of the conversation as they are (one that is sent comes in a
snapshot before it is mirrored), the listener has got those of `docs`, and the chat has been told of
every change. -/
structure Settled (docs : DartMap Doc) : Prop where
  allCame : ListScreen.AllCame (.chat conversationId) d.realm d.events
  inOrder : InOrder d.events ∧ InOrder d.notices
  orderly : Execution.StepsMeet (Sync.step d.zone .message)
    ((ObservedQuery.messages conversationId).Orderly d.zone) ⟨∅, d.realm⟩
    (d.events.map Timed.value)
  received : (ListScreen.after d.zone (.chat conversationId) d.realm d.events).shown =
    sentMessages conversationId docs
  notified : d.notices ≠ [] ∧
    ListScreen.Notified d.zone (.chat conversationId) d.realm d.events d.notices

def LastHeard (x : Timed Unit) : Prop :=
  (firstThenDebounce d.debounce 500 d.notices).getLast? = some x

end ChatReader

section Decoding

variable {z z' : Zone} {d : Doc} {m : Message} {ms : ℤ}

/-- A time that is stored in milliseconds reads alike in all zones. -/
theorem fromMap_message_zone (h : d.get "created_at" = .int ms) :
    fromMap z .message d = fromMap z' .message d := by
  simp only [fromMap, MessageFirestoreHelper.fromFirestore, h, Cast.parseDateTime]

theorem createdAt_of_message (hm : fromMap z .message d = .ok m)
    (h : d.get "created_at" = .int ms) : m.createdAt = some (ms * 1000) := by
  have hfield : (fieldDecoders z .message)[4]? =
      some (field "created_at" (Cast.parseDateTime z) .date?) := rfl
  have hname : (propertyNames .message)[4]? = some "createdAt" := rfl
  obtain ⟨a, ha, hp⟩ := property_of_fromMap_ok hm hname hfield
  rw [h] at ha
  simp only [Cast.parseDateTime, DateTime.fromMillisecondsSinceEpoch] at ha
  split_ifs at ha
  cases ha
  obtain ⟨_, _, _, _, _⟩ := m
  cases hp
  rfl

/-- Messages with a creation time are sorted by it. -/
theorem order_message {m m' : Message} {t t' : ℤ} (h : m.createdAt = some t)
    (h' : m'.createdAt = some t') :
    Query.directed false (Rql.order (Entity.property .message m "createdAt")
      (Entity.property .message m' "createdAt")) = compare t t' := by
  obtain ⟨_, _, _, _, _⟩ := m
  obtain ⟨_, _, _, _, _⟩ := m'
  cases h
  cases h'
  rfl

end Decoding

section Order

variable {r : Realm} {conversationId : String}

theorem shown_messages_eq (conversationId : String) (r : Realm) :
    (ObservedQuery.messages conversationId).shown r =
      (((r.all .message).map Row.entity).filter (fun m =>
        (MessageRepository.localMessages conversationId).accepts .message m)).insertionSort
          (fun m m' => Query.directed false (Rql.order (Entity.property .message m "createdAt")
            (Entity.property .message m' "createdAt")) ≠ .gt) := by
  have hall := (ObservedQuery.messages conversationId).represents.select_eq .message
    ((r.all .message).map Row.entity)
  exact hall

/-- The local query shows the messages in the order of their creation times. -/
theorem pairwise_shown (hdated : ∀ m ∈ (ObservedQuery.messages conversationId).shown r,
    ∃ t, Message.createdAt m = some t) :
    ((ObservedQuery.messages conversationId).shown r).Pairwise
      (fun m m' => (Message.createdAt m).getD 0 ≤ (Message.createdAt m').getD 0) := by
  rw [shown_messages_eq] at hdated ⊢
  apply TopValues.pairwise_insertionSort_of
    (v := fun m : Message => OrderDual.toDual (m.createdAt.getD 0))
  · intro m hm m' hm' hle
    obtain ⟨t, ht⟩ := hdated m ((List.mem_insertionSort _).mpr hm)
    obtain ⟨t', ht'⟩ := hdated m' ((List.mem_insertionSort _).mpr hm')
    rw [order_message ht ht'] at hle
    rw [ht, ht']
    exact not_lt.mp (fun hlt => hle (compare_gt_iff_gt.mpr hlt))
  · intro m hm m' hm' hgt
    obtain ⟨t, ht⟩ := hdated m ((List.mem_insertionSort _).mpr hm)
    obtain ⟨t', ht'⟩ := hdated m' ((List.mem_insertionSort _).mpr hm')
    rw [order_message ht ht', not_not] at hgt
    rw [ht, ht']
    exact (compare_gt_iff_gt.mp hgt).le

end Order

/-- Messages sent at times of their own. -/
structure SentApart (docs : DartMap Doc) : Prop where
  dated : ∀ e ∈ docs.entries, ∃ ms, e.2.get "created_at" = .int ms
  apart : (docs.entries.map (fun e => e.2.get "created_at")).Nodup

namespace SentApart

variable {docs : DartMap Doc} {z : Zone} {conversationId : String}

theorem exists_entry {m : Message} (h : SentApart docs)
    (hm : m ∈ (ObservedQuery.messages conversationId).decoded z docs) :
    ∃ e ∈ docs.entries, ∃ ms, e.2.get "created_at" = .int ms ∧
      fromMap z .message e.2 = .ok m ∧ m.createdAt = some (ms * 1000) := by
  obtain ⟨e, he, hdecode⟩ := List.mem_filterMap.mp hm
  obtain ⟨ms, hms⟩ := h.dated e he
  cases hok : fromMap z .message e.2 with
  | error err =>
      change (fromMap z .message e.2).toOption = some m at hdecode
      rw [hok] at hdecode
      cases hdecode
  | ok m' =>
      change (fromMap z .message e.2).toOption = some m at hdecode
      rw [hok] at hdecode
      cases hdecode
      exact ⟨e, he, ms, hms, hok, createdAt_of_message hok hms⟩

/-- The documents are read alike in all zones. -/
theorem decoded_zone (h : SentApart docs) (z z' : Zone) :
    (ObservedQuery.messages conversationId).decoded z docs =
      (ObservedQuery.messages conversationId).decoded z' docs := by
  apply List.filterMap_congr
  intro e he
  obtain ⟨ms, hms⟩ := h.dated e he
  exact congrArg Except.toOption (fromMap_message_zone hms)

/-- Messages of one creation time are one message. -/
theorem eq_of_createdAt (h : SentApart docs) {m m' : Message}
    (hm : m ∈ (ObservedQuery.messages conversationId).decoded z docs)
    (hm' : m' ∈ (ObservedQuery.messages conversationId).decoded z docs)
    (ht : m.createdAt = m'.createdAt) : m = m' := by
  obtain ⟨e, he, ms, hms, hok, hcreated⟩ := h.exists_entry hm
  obtain ⟨e', he', ms', hms', hok', hcreated'⟩ := h.exists_entry hm'
  have hsame : ms = ms' := by
    rw [hcreated, hcreated', Option.some.injEq] at ht
    omega
  have hentry : e = e' := List.inj_on_of_nodup_map h.apart he he' (by rw [hms, hms', hsame])
  rw [hentry] at hok
  exact Except.ok.inj (hok.symm.trans hok')

end SentApart

namespace ChatReader

variable {d d' : ChatReader} {conversationId : String} {docs : DartMap Doc} {x : Timed Unit}

/-- Half a second after its last notice a device has all the messages. -/
theorem Settled.messages_perm (h : d.Settled conversationId docs) (hx : d.LastHeard x) :
    (d.messages conversationId x.time).Perm
      ((ObservedQuery.messages conversationId).decoded d.zone
        (sentMessages conversationId docs)) := by
  obtain ⟨n, hn⟩ := List.getLast?_isSome.mpr h.notified.1 |> Option.isSome_iff_exists.mp
  obtain ⟨x', hx', -, hle, -⟩ := exists_last_heard d.debounce 500 hn
  cases hx.symm.trans hx'
  unfold messages
  rw [ListScreen.resultsAt_eq h.inOrder.1 h.notified.2
    (fun m hm => (ListScreen.time_le_last h.inOrder.2 hn m hm).trans hle)]
  exact (ListScreen.shown_after_perm_iff h.orderly h.received).mpr h.allCame

theorem Settled.messages_pairwise (h : d.Settled conversationId docs) (hx : d.LastHeard x)
    (hsent : SentApart (sentMessages conversationId docs)) :
    (d.messages conversationId x.time).Pairwise
      (fun m m' => m.createdAt.getD 0 ≤ m'.createdAt.getD 0) := by
  apply pairwise_shown
  intro m hm
  obtain ⟨-, -, ms, -, -, hcreated⟩ := hsent.exists_entry ((h.messages_perm hx).mem_iff.mp hm)
  exact ⟨ms * 1000, hcreated⟩

/-- Once the devices have settled they show the same messages in the same order, that of the times
at which they were sent. -/
theorem settled_chats_agree (conversationId : String) (docs : DartMap Doc) (d d' : ChatReader)
    (x x' : Timed Unit) (hd : d.Settled conversationId docs) (hd' : d'.Settled conversationId docs)
    (hx : d.LastHeard x) (hx' : d'.LastHeard x')
    (hsent : SentApart (sentMessages conversationId docs)) :
    d.messages conversationId x.time = d'.messages conversationId x'.time ∧
      (d.messages conversationId x.time).Pairwise
        (fun m m' => m.createdAt.getD 0 ≤ m'.createdAt.getD 0) := by
  have hperm := hd.messages_perm hx
  have hperm' := hd'.messages_perm hx'
  rw [hsent.decoded_zone d'.zone d.zone] at hperm'
  refine ⟨?_, hd.messages_pairwise hx hsent⟩
  refine (hperm.trans hperm'.symm).eq_of_pairwise ?_ (hd.messages_pairwise hx hsent)
    (hd'.messages_pairwise hx' hsent)
  intro m m' hm hm' hle hge
  have hmem := hperm.mem_iff.mp hm
  have hmem' := hperm'.mem_iff.mp hm'
  obtain ⟨-, -, ms, -, -, hcreated⟩ := hsent.exists_entry hmem
  obtain ⟨-, -, ms', -, -, hcreated'⟩ := hsent.exists_entry hmem'
  apply hsent.eq_of_createdAt hmem hmem'
  rw [hcreated, hcreated', Option.getD_some, Option.getD_some] at hle hge
  rw [hcreated, hcreated', le_antisymm hle hge]

def sentDoc (id senderId : String) (ms : ℤ) : Doc :=
  DartMap.ofList [("id", .string id), ("conversation_id", .string "c1"),
    ("sender_id", .string senderId), ("text", .string "Hi"), ("created_at", .int ms)]

def question : DartMap Doc := DartMap.ofList [("m1", sentDoc "m1" "g1" 5)]

def answered : DartMap Doc :=
  DartMap.ofList [("m2", sentDoc "m2" "h1" 7), ("m1", sentDoc "m1" "g1" 5)]

def guestReads : ChatReader where
  zone := Zone.utc
  realm := Realm.empty.add .message ⟨⟨"m1", some "g1", some "c1", some "Hi", some 5000⟩, noLinks⟩
  debounce := Operator.eager
  events := [⟨100, .snapshot question (QuerySnapshot.docChanges ∅ question)⟩,
    ⟨300, .snapshot answered (QuerySnapshot.docChanges question answered)⟩]
  notices := [⟨0, ()⟩, ⟨310, ()⟩]

theorem sevenHours_lt_day : |(25200000 : ℤ) * 1000| < microsecondsPerDay := by decide

def hostReads : ChatReader where
  zone := Zone.fixed 25200000 sevenHours_lt_day
  realm := Realm.empty
  debounce := Operator.eager
  events := [⟨900, .snapshot answered (QuerySnapshot.docChanges ∅ answered)⟩]
  notices := [⟨900, ()⟩]

theorem notified_of_le {d : ChatReader} {n : Timed Unit} (hn : n ∈ d.notices)
    (h : ∀ e ∈ d.events, e.time ≤ n.time) :
    ListScreen.Notified d.zone (.chat conversationId) d.realm d.events d.notices := by
  intro before e rest hsplit _
  exact ⟨n, hn, h e (by simp [hsplit])⟩

theorem allCame_guestReads :
    ListScreen.AllCame (.chat "c1") guestReads.realm guestReads.events := by
  have hshown : (ObservedQuery.messages "c1").shown guestReads.realm =
      [⟨"m1", some "g1", some "c1", some "Hi", some 5000⟩] := rfl
  unfold ListScreen.AllCame
  change ∀ m ∈ (ObservedQuery.messages "c1").shown guestReads.realm, Came _ (Message.id m)
  rw [hshown]
  refine List.forall_mem_singleton.mpr ⟨_, _, List.mem_cons_self, ?_⟩
  decide

theorem settled_guestReads : guestReads.Settled "c1" answered where
  allCame := allCame_guestReads
  inOrder := by simp [guestReads, InOrder]
  orderly := Execution.stepsMeet_cons ⟨⟨by decide, List.Perm.refl _⟩, question, rfl⟩ rfl
    (Execution.stepsMeet_cons ⟨⟨by decide, List.Perm.refl _⟩, answered, rfl⟩ rfl trivial)
  received := rfl
  notified := ⟨by simp [guestReads], notified_of_le (n := ⟨310, ()⟩) (by simp [guestReads])
    (by simp [guestReads])⟩

theorem settled_hostReads : hostReads.Settled "c1" answered where
  allCame := nofun
  inOrder := by simp [hostReads, InOrder]
  orderly := Execution.stepsMeet_cons ⟨⟨by decide, List.Perm.refl _⟩, answered, rfl⟩ rfl trivial
  received := rfl
  notified := ⟨by simp [hostReads], notified_of_le (n := ⟨900, ()⟩) (by simp [hostReads])
    (by simp [hostReads])⟩

theorem sentApart_answered : SentApart (sentMessages "c1" answered) where
  dated := List.forall_mem_cons.mpr ⟨⟨5, rfl⟩, List.forall_mem_cons.mpr ⟨⟨7, rfl⟩, nofun⟩⟩
  apart := by decide

theorem settled_chats_agree_answered :
    guestReads.messages "c1" 810 = hostReads.messages "c1" 900 ∧
      (guestReads.messages "c1" 810).Pairwise
        (fun m m' => m.createdAt.getD 0 ≤ m'.createdAt.getD 0) :=
  settled_chats_agree "c1" answered guestReads hostReads ⟨810, ()⟩ ⟨900, ()⟩ settled_guestReads
    settled_hostReads rfl rfl sentApart_answered

end ChatReader

end AirBnbClone
