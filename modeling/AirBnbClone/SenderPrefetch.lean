import AirBnbClone.Execution
import AirBnbClone.InFlightCalls
import AirBnbClone.ItemModels

/-!
# The messages of a chat and the prefetch of their senders

Each event of the message stream is shown at once and starts a `getUser` call for every sender that
is not linked yet. A set of ids keeps a sender from being asked for twice while a call is pending;
the calls of all events run in parallel and complete in any order.
-/

namespace AirBnbClone

structure LinkedMessage where
  object : Message
  isValid : Bool
  sender : Option User

structure ChatState where
  conversationName : String := ""
  messages : List (BaseItemModel LinkedMessage) := []
  isLoading : Bool := true
  currentUserId : Option String := none

namespace ChatCubit

/-- Realm returns a date with UTC fields. -/
def formatMessageTime : Option ℤ → String
  | none => ""
  | some t =>
      let date := Gregorian.civil (t / microsecondsPerDay)
      let minutes := t % microsecondsPerDay / 60000000
      toString date.day ++ "/" ++ toString date.month ++ "/" ++ toString date.year ++ " " ++
        (padLeft 2 (minutes / 60) ++ ":" ++ padLeft 2 (minutes % 60))

def messagesToItems (entities : List LinkedMessage) (currentUserId : Option String) :
    List (BaseItemModel LinkedMessage) :=
  (entities.filter LinkedMessage.isValid).map (fun m => {
    id := m.object.id
    title := m.object.text.getD ""
    des := formatMessageTime m.object.createdAt
    tag := if m.object.senderId = currentUserId then "sent" else "received"
    imageUrl := (m.sender.bind User.imageUrl).getD ""
    object := some m })

end ChatCubit

/-- The sender to fetch: the message is there, and names a sender that is not linked. -/
def LinkedMessage.missingSender (m : LinkedMessage) : Option String :=
  if !m.isValid then none
  else if m.sender.isSome then none
  else
    match m.object.senderId with
    | none => none
    | some sid => if sid.isEmpty then none else some sid

namespace ChatCubit

/-- The body of the loop in `_prefetchMissingSenders`, which fills a set. -/
def addMissing (inFlightSenderIds : Finset String) (toFetch : List String) (m : LinkedMessage) :
    List String :=
  match m.missingSender with
  | none => toFetch
  | some sid =>
      if sid ∈ inFlightSenderIds then toFetch
      else if sid ∈ toFetch then toFetch
      else toFetch ++ [sid]

def toFetch (inFlightSenderIds : Finset String) (entities : List LinkedMessage) : List String :=
  entities.foldl (addMissing inFlightSenderIds) []

end ChatCubit

structure ChatScreen where
  state : ChatState := {}
  userId : Option String := none
  inFlightSenderIds : Finset String := ∅
  calls : List (InFlight.Call String) := []
  events : List (List LinkedMessage) := []

/-- An event of the stream, or the completion of a call of `getUser`. -/
inductive ChatEvent
  | messages (results : List LinkedMessage)
  | completed (i : ℕ) (reply : Except DartError User)

namespace ChatScreen

open ChatCubit

/-- The listener: show the messages, then start a call for each missing sender. -/
def onMessages (scr : ChatScreen) (results : List LinkedMessage) : ChatScreen :=
  let ids := toFetch scr.inFlightSenderIds results
  { scr with
    state := { scr.state with
      messages := messagesToItems results (scr.state.currentUserId <|> scr.userId)
      isLoading := false }
    inFlightSenderIds := scr.inFlightSenderIds ∪ ids.toFinset
    calls := scr.calls ++ ids.map (InFlight.Call.mk · false)
    events := scr.events ++ [results] }

def step (scr : ChatScreen) : ChatEvent → Option ChatScreen
  | .messages results => some (scr.onMessages results)
  | .completed i _ =>
      -- a reply and an error both end in `finally`
      match scr.calls[i]? with
      | some ⟨id, false⟩ => some { scr with
          inFlightSenderIds := scr.inFlightSenderIds.erase id
          calls := scr.calls.set i ⟨id, true⟩ }
      | _ => none

/-- Every call was started for a sender that some event was missing. -/
def FetchesMissing (scr : ChatScreen) : Prop :=
  ∀ call ∈ scr.calls, ∃ results ∈ scr.events, ∃ m ∈ results, m.missingSender = some call.key

section Loop

variable {inFlight : Finset String} {entities : List LinkedMessage} {m : LinkedMessage}
  {sid : String}

theorem missingSender_eq_some_iff : m.missingSender = some sid ↔
    m.isValid = true ∧ m.sender = none ∧ m.object.senderId = some sid ∧ sid ≠ "" := by
  unfold LinkedMessage.missingSender
  cases m.isValid with
  | false => simp
  | true =>
      cases m.sender with
      | some sender => simp
      | none =>
          cases m.object.senderId with
          | none => simp
          | some id =>
              by_cases hid : id = ""
              · subst hid
                simp
              · simp [hid]
                rintro rfl
                exact hid

theorem mem_addMissing {ids : List String} : sid ∈ addMissing inFlight ids m ↔
    sid ∈ ids ∨ (m.missingSender = some sid ∧ sid ∉ inFlight) := by
  unfold addMissing
  cases m.missingSender with
  | none => simp
  | some sid' =>
      simp only [Option.some.injEq]
      split_ifs with hflight hseen
      · exact (or_iff_left (fun h => h.2 (h.1 ▸ hflight))).symm
      · exact (or_iff_left_of_imp (fun h => h.1 ▸ hseen)).symm
      · rw [List.mem_append, List.mem_singleton]
        refine or_congr_right ⟨fun h => ⟨h.symm, h ▸ hflight⟩, fun h => h.1.symm⟩

theorem nodup_addMissing {ids : List String} (h : ids.Nodup) :
    (addMissing inFlight ids m).Nodup := by
  unfold addMissing
  cases m.missingSender with
  | none => exact h
  | some sid =>
      simp only
      split_ifs with hflight hseen
      · exact h
      · exact h
      · exact h.append (List.nodup_singleton sid) (List.disjoint_singleton.mpr hseen)

/-- The loop collects each missing sender that is not in flight, once. -/
theorem foldl_addMissing {ids : List String} (h : ids.Nodup) :
    (entities.foldl (addMissing inFlight) ids).Nodup ∧
      ∀ sid, sid ∈ entities.foldl (addMissing inFlight) ids ↔
        sid ∈ ids ∨ ((∃ m ∈ entities, m.missingSender = some sid) ∧ sid ∉ inFlight) := by
  induction entities generalizing ids with
  | nil => exact ⟨h, fun sid => by simp⟩
  | cons m entities ih =>
      obtain ⟨hnodup, hmem⟩ := ih (nodup_addMissing (m := m) h)
      refine ⟨hnodup, fun sid => ?_⟩
      rw [List.foldl_cons, hmem, mem_addMissing, or_assoc, ← or_and_right]
      simp only [List.mem_cons, or_and_right, exists_or, exists_eq_left]

theorem nodup_toFetch : (toFetch inFlight entities).Nodup := (foldl_addMissing List.nodup_nil).1

theorem mem_toFetch : sid ∈ toFetch inFlight entities ↔
    (∃ m ∈ entities, m.missingSender = some sid) ∧ sid ∉ inFlight := by
  unfold toFetch
  rw [(foldl_addMissing List.nodup_nil).2]
  simp

end Loop

section Runs

variable {scr scr' : ChatScreen} {results : List LinkedMessage} {e : ChatEvent}

/-- Every missing sender of an event that was handled is in flight. -/
theorem mem_inFlight_onMessages {m : LinkedMessage} {sid : String} (hm : m ∈ results)
    (h : m.missingSender = some sid) : sid ∈ (scr.onMessages results).inFlightSenderIds := by
  change sid ∈ scr.inFlightSenderIds ∪ (toFetch scr.inFlightSenderIds results).toFinset
  rw [Finset.mem_union, List.mem_toFinset, mem_toFetch]
  by_cases hflight : sid ∈ scr.inFlightSenderIds
  · exact .inl hflight
  · exact .inr ⟨⟨m, hm, h⟩, hflight⟩

structure PrefetchInvariant (scr : ChatScreen) : Prop where
  tracks : InFlight.Tracks scr.inFlightSenderIds scr.calls
  fetches : scr.FetchesMissing

theorem prefetchInvariant_onMessages (h : scr.PrefetchInvariant) :
    (scr.onMessages results).PrefetchInvariant where
  tracks := h.tracks.start nodup_toFetch (fun _ hid => (mem_toFetch.mp hid).2)
  fetches call hcall := by
    change call ∈ scr.calls ++ (toFetch scr.inFlightSenderIds results).map _ at hcall
    obtain hold | hnew := List.mem_append.mp hcall
    · obtain ⟨before, hbefore, hmissing⟩ := h.fetches call hold
      exact ⟨before, List.mem_append_left _ hbefore, hmissing⟩
    · obtain ⟨sid, hsid, rfl⟩ := List.mem_map.mp hnew
      exact ⟨results, List.mem_append_right _ (List.mem_singleton_self _), (mem_toFetch.mp hsid).1⟩

/-- Only a pending call completes. -/
theorem step_completed {i : ℕ} {reply : Except DartError User}
    (h : scr.step (.completed i reply) = some scr') :
    ∃ id, scr.calls[i]? = some ⟨id, false⟩ ∧ scr' = { scr with
      inFlightSenderIds := scr.inFlightSenderIds.erase id
      calls := scr.calls.set i ⟨id, true⟩ } := by
  cases hcall : scr.calls[i]? with
  | none => simp [step, hcall] at h
  | some call =>
      obtain ⟨id, completed⟩ := call
      cases completed with
      | true => simp [step, hcall] at h
      | false =>
          simp only [step, hcall, Option.some.injEq] at h
          exact ⟨id, rfl, h.symm⟩

theorem prefetchInvariant_step (h : scr.PrefetchInvariant) (hstep : scr.step e = some scr') :
    scr'.PrefetchInvariant := by
  cases e with
  | messages results =>
      cases hstep
      exact prefetchInvariant_onMessages h
  | completed i reply =>
      obtain ⟨id, hcall, rfl⟩ := step_completed hstep
      refine ⟨h.tracks.complete hcall, fun call hmem => ?_⟩
      obtain hmem | rfl := List.mem_or_eq_of_mem_set hmem
      · exact h.fetches call hmem
      · exact h.fetches ⟨id, false⟩ (List.mem_of_getElem? hcall)

end Runs

/-- The set holds the ids whose call is pending, each pending once; every id that was fetched was
the sender of a message without a linked one, and no such sender of an event is left out. -/
structure PrefetchSound (scr : ChatScreen) : Prop where
  exact_iff : ∀ sid, sid ∈ scr.inFlightSenderIds ↔
    ∃ call ∈ scr.calls, call.key = sid ∧ call.completed = false
  once : (InFlight.pending scr.calls).Nodup
  fetched : ∀ call ∈ scr.calls, ∃ results ∈ scr.events, ∃ m ∈ results, m.isValid = true ∧
    m.sender = none ∧ m.object.senderId = some call.key ∧ call.key ≠ ""
  covered : ∀ results scr', scr.step (.messages results) = some scr' → ∀ m ∈ results, ∀ sid,
    m.isValid = true → m.sender = none → m.object.senderId = some sid → sid ≠ "" →
      sid ∈ scr'.inFlightSenderIds
  empty : (∀ call ∈ scr.calls, call.completed = true) → scr.inFlightSenderIds = ∅

theorem PrefetchInvariant.sound {scr : ChatScreen} (h : scr.PrefetchInvariant) :
    scr.PrefetchSound where
  exact_iff sid := by
    rw [h.tracks.mem_iff, InFlight.pending, List.mem_map]
    simp only [List.mem_filter, Bool.not_eq_true']
    exact exists_congr (fun call => ⟨fun h => ⟨h.1.1, h.2, h.1.2⟩, fun h => ⟨⟨h.1, h.2.2⟩, h.2.1⟩⟩)
  once := h.tracks.once
  fetched call hcall := by
    obtain ⟨results, hresults, m, hm, hmissing⟩ := h.fetches call hcall
    exact ⟨results, hresults, m, hm, missingSender_eq_some_iff.mp hmissing⟩
  covered results scr' hstep m hm sid hvalid hsender hid hne := by
    cases hstep
    exact mem_inFlight_onMessages hm (missingSender_eq_some_iff.mpr ⟨hvalid, hsender, hid, hne⟩)
  empty hcompleted := by
    refine h.tracks.eq_empty ?_
    rw [InFlight.pending, List.filter_eq_nil_iff.mpr, List.map_nil]
    intro call hcall
    simp [hcompleted call hcall]

/-- Whatever the order of events and completions, no sender is asked for twice at a time and none
stays in the set. -/
theorem prefetch_always_sound (state : ChatState) (userId : Option String)
    (events : List ChatEvent) :
    Execution.Always step PrefetchSound { state := state, userId := userId } events := by
  have hinitial : PrefetchInvariant { state := state, userId := userId } :=
    ⟨InFlight.tracks_empty, fun _ hcall => absurd hcall List.not_mem_nil⟩
  exact (Execution.always_of_step (fun _ _ _ h hstep => prefetchInvariant_step h hstep) events
    hinitial).mono (fun _ => PrefetchInvariant.sound)

end ChatScreen

end AirBnbClone
