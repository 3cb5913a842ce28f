import AirBnbClone.AsyncProgram
import AirBnbClone.DeviceCalls
import AirBnbClone.Execution

/-!
# The account screen

The functions of `AccountCubit` clear the error and the route by giving `copyWith` null, which keeps
them. Once a message or a route is in the state, every later emission repeats it, and the listener
of the screen acts on every state that is emitted.
-/

namespace AirBnbClone

open Async

namespace RouteConstant

def explorePath : String := "/"

def bookings : String := "bookings"

def bookingsPath : String := "/" ++ bookings

end RouteConstant

structure AccountState where
  avatarUrl : String := ""
  fullName : String := ""
  email : String := ""
  isLoading : Bool := false
  errorMessage : Option String := none
  routeId : Option String := none
  businessButtonTitle : String := ""
  deriving DecidableEq

namespace AccountState

structure Update where
  avatarUrl : Option String := none
  fullName : Option String := none
  email : Option String := none
  isLoading : Option Bool := none
  errorMessage : Option String := none
  routeId : Option String := none
  businessButtonTitle : Option String := none

def copyWith (s : AccountState) (u : Update) : AccountState where
  avatarUrl := u.avatarUrl.getD s.avatarUrl
  fullName := u.fullName.getD s.fullName
  email := u.email.getD s.email
  isLoading := u.isLoading.getD s.isLoading
  errorMessage := u.errorMessage <|> s.errorMessage
  routeId := u.routeId <|> s.routeId
  businessButtonTitle := u.businessButtonTitle.getD s.businessButtonTitle

/-- The texts that the listener of the screen shows on a state. -/
def shows (s : AccountState) : List String :=
  match s.errorMessage with
  | some message => if message.isEmpty then [] else [message]
  | none => []

/-- The routes that the listener of the screen goes to on a state. -/
def goes (s : AccountState) : List String := s.routeId.toList

def Cleared (s : AccountState) : Prop := s.errorMessage = none ∧ s.routeId = none

end AccountState

inductive AccountCall
  | cancelSubscription
  | updateUser (id : String) (data : Doc)
  | signOut

/-- The replies are not read. -/
abbrev AccountReply : AccountCall → Type := fun _ => Unit

/-- What the reply makes the cubit emit repeats no error and no route. An update of the user that
succeeds brings a route of its own, a call that fails an error of its own. -/
def AccountState.ClearedFor (s : AccountState) : AccountCall → Except DartError Unit → Prop
  | .cancelSubscription, .ok _ => s.Cleared
  | .cancelSubscription, .error _ => True
  | .updateUser .., .ok _ => s.errorMessage = none
  | .updateUser .., .error _ => s.routeId = none
  | .signOut, .ok _ => s.Cleared
  | .signOut, .error _ => s.routeId = none

structure AccountCubit where
  state : AccountState := {}
  user : Option User := none
  /-- The field `_userSubscription` is not null. -/
  userSubscription : Bool := false
  emitted : List AccountState := []

namespace AccountCubit

abbrev AccountM (α : Type) := Prog AccountReply AccountCubit DartError α

def emit (c : AccountCubit) (s : AccountState) : AccountCubit :=
  { c with state := s, emitted := c.emitted ++ [s] }

def emitCopy (u : AccountState.Update) : AccountM Unit :=
  Prog.emitWith (fun c => c.emit (c.state.copyWith u))

def userMissing : String := "User information not available. Please try again."

def userInvalid : String := "User data is invalid. Please try again."

def updateFailed : String := "Failed to update host status. Please try again."

def signOutFailed : String := "Failed to sign out. Please try again."

/-- The end of `changeHost`. As in the functions below, the result tells whether the call succeeded;
the source returns nothing. -/
def updateHost (userId : String) (isHost : Bool) : AccountM Bool :=
  Prog.tryCatch
    (do
      Prog.call (.updateUser userId (DartMap.ofList [("is_host", .bool isHost)]))
      emitCopy {
        isLoading := some false
        routeId := some (if isHost then RouteConstant.bookingsPath else RouteConstant.explorePath)
        errorMessage := none }
      return true)
    (fun _ => do
      emitCopy { isLoading := some false, errorMessage := some updateFailed }
      return false)

/-- `isValid` is the answer of the user that was frozen. -/
def changeHost (isInHostMode isValid : Bool) : AccountM Bool := do
  emitCopy { errorMessage := none, routeId := none }
  emitCopy { isLoading := some true }
  match (← Prog.state).user with
  | none => do
      emitCopy { isLoading := some false, errorMessage := some userMissing }
      return false
  | some user =>
      if !isValid then do
        emitCopy { isLoading := some false, errorMessage := some userInvalid }
        return false
      else if user.isHost = some true ∧ isInHostMode = false then do
        emitCopy { isLoading := some false, routeId := some RouteConstant.bookingsPath }
        return true
      else
        updateHost user.id (user.isHost = none ∨ user.isHost = some false)

def leave : AccountM Bool :=
  Prog.tryCatch
    (do
      Prog.call .signOut
      emitCopy { isLoading := some false, errorMessage := none }
      return true)
    (fun _ => do
      emitCopy { isLoading := some false, errorMessage := some signOutFailed }
      return false)

def signOut : AccountM Bool := do
  Prog.call .cancelSubscription
  Prog.emitWith (fun c => { c with userSubscription := false })
  emitCopy { errorMessage := none, isLoading := some true }
  leave

def getBusinessButtonTitle (isInHostMode : Bool) (user : User) : String :=
  if user.isHost = none then "Become a Host"
  else if user.isHost = some true ∧ isInHostMode then "Show my Guest Dashboard"
  else "Show my Host Dashboard"

def showUser (isInHostMode : Bool) (user : Managed User) (c : AccountCubit) : AccountCubit :=
  if user.isValid then
    { c with user := some user.object }.emit (c.state.copyWith {
      avatarUrl := some (user.object.imageUrl.getD "")
      fullName := some (user.object.fullName.getD "")
      email := some (user.object.email.getD "")
      businessButtonTitle := some (getBusinessButtonTitle isInHostMode user.object) })
  else c

end AccountCubit

inductive AccountSource
  | changeHost
  | signOut
  | snapshot
  deriving DecidableEq

/-- What is emitted from one await to the next, and, if a call ends there without throwing, whether
it succeeded. -/
structure Burst where
  source : AccountSource
  ended : Option Bool
  emitted : List AccountState

namespace Burst

def hostChanged (b : Burst) : Bool := b.source = .changeHost ∧ b.ended = some true

/-- Errors and routes are emitted once. -/
@[mk_iff]
structure OneShot (b : Burst) : Prop where
  succeeded : b.ended = some true → ∀ s ∈ b.emitted.getLast?, s.errorMessage = none
  notLast : ∀ s ∈ b.emitted.dropLast, s.routeId = none
  notChanged : b.hostChanged = false → ∀ s ∈ b.emitted, s.routeId = none
  snapshot : b.source = .snapshot → ∀ s ∈ b.emitted, s.routeId = none ∧ s.errorMessage = none
  goes : (b.emitted.flatMap AccountState.goes).length = if b.hostChanged then 1 else 0
  shows : (b.emitted.flatMap AccountState.shows).length = if b.ended = some false then 1 else 0

end Burst

structure AccountProcess where
  source : AccountSource
  program : AccountCubit.AccountM Bool

/-- The cubit with its calls that are still awaiting something. -/
structure AccountScreen where
  cubit : AccountCubit := {}
  /-- `_observeData` has not been told the user's id yet. -/
  userIdPending : Bool := true
  /-- The stream of the user has a listener. -/
  listening : Bool := false
  processes : List AccountProcess := []
  log : List Burst := []

inductive AccountEvent
  | userId (reply : Except DartError (Option String))
  | snapshot (user : Managed User)
  | changeHost (isValid : Bool)
  | signOut
  | answer (i : ℕ) (reply : Except DartError Unit)

namespace AccountScreen

open AccountCubit

def outcome : AccountM Bool → Option Bool
  | .done (.ok succeeded) => some succeeded
  | _ => none

def burst (p : AccountProcess) (c : AccountCubit) : Burst where
  source := p.source
  ended := outcome (Prog.settle p.program c).1
  emitted := (Prog.settle p.program c).2.emitted

def advance (scr : AccountScreen) (p : AccountProcess) : AccountScreen := { scr with
  cubit := { (Prog.settle p.program scr.cubit).2 with emitted := [] }
  processes := match (Prog.settle p.program scr.cubit).1 with
    | .done _ => scr.processes
    | program => scr.processes ++ [⟨p.source, program⟩]
  log := scr.log ++ [burst p scr.cubit] }

variable (isInHostMode : Bool)

def step (scr : AccountScreen) : AccountEvent → Option AccountScreen
  | .userId reply =>
      if scr.userIdPending then
        match reply with
        | .ok (some _) => some { scr with
            cubit := { scr.cubit with userSubscription := true }
            userIdPending := false
            listening := true }
        | _ => some { scr with userIdPending := false }
      else none
  | .snapshot user =>
      if scr.listening then
        let shown := showUser isInHostMode user scr.cubit
        some { scr with
          cubit := { shown with emitted := [] }
          log := scr.log ++ [⟨.snapshot, none, shown.emitted⟩] }
      else none
  | .changeHost isValid =>
      some (scr.advance ⟨.changeHost, AccountCubit.changeHost isInHostMode isValid⟩)
  | .signOut =>
      -- `cancel` stops the events at once; its future is what is awaited
      some ({ scr with listening := scr.listening && !scr.cubit.userSubscription }.advance
        ⟨.signOut, AccountCubit.signOut⟩)
  | .answer i reply =>
      match scr.processes[i]? with
      | some ⟨source, .await _ k⟩ =>
          some ({ scr with processes := scr.processes.eraseIdx i }.advance ⟨source, k reply⟩)
      | _ => none

def AllOneShot (scr : AccountScreen) : Prop := ∀ b ∈ scr.log, b.OneShot

/-- What the event makes the cubit emit repeats no error and no route of the state before. -/
def ClearedBefore (scr : AccountScreen) : AccountEvent → Prop
  | .userId _ => True
  | .snapshot user => scr.listening → user.isValid → scr.cubit.state.Cleared
  | .changeHost _ => scr.cubit.state.Cleared
  | .signOut => True
  | .answer i reply =>
      match scr.processes[i]? with
      | some ⟨_, .await op _⟩ => scr.cubit.state.ClearedFor op reply
      | _ => True

section Bursts

variable {c : AccountCubit} {isInHostMode} {source : AccountSource} {s : AccountState}

theorem length_shows (h : s.errorMessage ≠ some "") :
    s.shows.length = if s.errorMessage = none then 0 else 1 := by
  unfold AccountState.shows
  cases hmessage : s.errorMessage with
  | none => rfl
  | some message =>
      have hne : message ≠ "" := fun he => h (hmessage.trans (congrArg some he))
      simp [hne]

theorem length_goes : s.goes.length = if s.routeId = none then 0 else 1 := by
  unfold AccountState.goes
  cases s.routeId <;> rfl

theorem oneShot_nil : (⟨source, none, []⟩ : Burst).OneShot := by
  simp [Burst.oneShot_iff, Burst.hostChanged]

/-- A call that goes on, and a snapshot. -/
theorem oneShot_singleton (h : s.errorMessage ≠ some "") :
    (⟨source, none, [s]⟩ : Burst).OneShot ↔ s.Cleared := by
  simp [Burst.oneShot_iff, Burst.hostChanged, AccountState.Cleared, length_goes, length_shows h]
  tauto

theorem oneShot_succeeded_signOut (h : s.errorMessage ≠ some "") :
    (⟨.signOut, some true, [s]⟩ : Burst).OneShot ↔ s.Cleared := by
  simp [Burst.oneShot_iff, Burst.hostChanged, AccountState.Cleared, length_goes, length_shows h]
  tauto

theorem oneShot_succeeded_changeHost (h : s.errorMessage ≠ some "") (hroute : s.routeId ≠ none) :
    (⟨.changeHost, some true, [s]⟩ : Burst).OneShot ↔ s.errorMessage = none := by
  simp [Burst.oneShot_iff, Burst.hostChanged, length_goes, length_shows h, hroute]

theorem oneShot_failed (hsource : source ≠ .snapshot) (h : s.errorMessage ≠ some "")
    (hmessage : s.errorMessage ≠ none) :
    (⟨source, some false, [s]⟩ : Burst).OneShot ↔ s.routeId = none := by
  simp [Burst.oneShot_iff, Burst.hostChanged, length_goes, length_shows h, hmessage, hsource]

/-- A call of `changeHost` emits the state it finds and the loading state, and then fails, succeeds
or updates the user. -/
theorem settle_changeHost (c : AccountCubit) (isInHostMode isValid : Bool) :
    (∃ message, message ≠ "" ∧
      Prog.settle (changeHost isInHostMode isValid) c = (.done (.ok false),
        ((c.emit c.state).emit { c.state with isLoading := true }).emit
          { c.state with isLoading := false, errorMessage := some message })) ∨
    Prog.settle (changeHost isInHostMode isValid) c = (.done (.ok true),
      ((c.emit c.state).emit { c.state with isLoading := true }).emit
        { c.state with isLoading := false, routeId := some RouteConstant.bookingsPath }) ∨
    ∃ userId isHost, Prog.settle (changeHost isInHostMode isValid) c =
      (updateHost userId isHost, (c.emit c.state).emit { c.state with isLoading := true }) := by
  obtain ⟨state, user, subscription, emitted⟩ := c
  cases user with
  | none => exact .inl ⟨userMissing, by decide, rfl⟩
  | some user =>
      cases isValid with
      | false => exact .inl ⟨userInvalid, by decide, rfl⟩
      | true =>
          by_cases h : user.isHost = some true ∧ isInHostMode = false
          · refine .inr (.inl ?_)
            change Prog.settle (if _ then _ else _) _ = _
            rw [if_pos h]
            rfl
          · refine .inr (.inr ⟨user.id, user.isHost = none ∨ user.isHost = some false, ?_⟩)
            change Prog.settle (if _ then _ else _) _ = _
            rw [if_neg h]
            rfl

theorem burst_eq {program rest : AccountM Bool} {c' : AccountCubit}
    (h : Prog.settle program c = (rest, c')) :
    burst ⟨source, program⟩ c = ⟨source, outcome rest, c'.emitted⟩ := by
  rw [burst, h]

theorem oneShot_changeHost {isInHostMode isValid : Bool} (h : c.state.errorMessage ≠ some "")
    (hemitted : c.emitted = []) :
    (burst ⟨.changeHost, changeHost isInHostMode isValid⟩ c).OneShot ↔ c.state.Cleared := by
  rcases settle_changeHost c isInHostMode isValid with
    ⟨message, hmessage, hsettle⟩ | hsettle | ⟨userId, isHost, hsettle⟩
  · rw [burst_eq hsettle]
    by_cases herror : c.state.errorMessage = none <;>
    simp [AccountCubit.emit, hemitted, outcome, Burst.oneShot_iff, Burst.hostChanged,
      AccountState.Cleared, length_goes, length_shows, h, hmessage, herror]
  · rw [burst_eq hsettle]
    by_cases hroute : c.state.routeId = none <;>
    simp [AccountCubit.emit, hemitted, outcome, Burst.oneShot_iff, Burst.hostChanged,
      AccountState.Cleared, length_goes, length_shows, h, hroute]
  · have hgoesOn : outcome (updateHost userId isHost) = none := rfl
    rw [burst_eq hsettle, hgoesOn]
    by_cases herror : c.state.errorMessage = none <;>
    simp [AccountCubit.emit, hemitted, Burst.oneShot_iff, Burst.hostChanged,
      AccountState.Cleared, length_goes, length_shows, h, herror]

end Bursts

inductive Awaits : AccountProcess → Prop
  | update (userId : String) (isHost : Bool) : Awaits ⟨.changeHost, updateHost userId isHost⟩
  | cancel : Awaits ⟨.signOut, AccountCubit.signOut⟩
  | leave : Awaits ⟨.signOut, AccountCubit.leave⟩

structure WellFormed (scr : AccountScreen) : Prop where
  message : scr.cubit.state.errorMessage ≠ some ""
  emitted : scr.cubit.emitted = []
  processes : ∀ p ∈ scr.processes, Awaits p

/-- Up to its next await a call leaves the screen well formed. -/
structure Settles (p : AccountProcess) (c : AccountCubit) : Prop where
  message : (Prog.settle p.program c).2.state.errorMessage ≠ some ""
  rest : (∃ r, (Prog.settle p.program c).1 = .done r) ∨
    Awaits ⟨p.source, (Prog.settle p.program c).1⟩

section Steps

variable {isInHostMode} {scr scr' : AccountScreen} {e : AccountEvent} {p : AccountProcess}

theorem wellFormed_advance (h : scr.WellFormed) (hp : Settles p scr.cubit) :
    (scr.advance p).WellFormed := by
  refine ⟨hp.message, rfl, ?_⟩
  rcases hp.rest with ⟨r, hr⟩ | hawaits
  · simpa only [advance, hr] using h.processes
  · unfold advance
    split
    · exact h.processes
    · intro q hq
      rcases List.mem_append.mp hq with hq | hq
      · exact h.processes q hq
      · cases List.mem_singleton.mp hq
        exact hawaits

theorem allOneShot_advance : (scr.advance p).AllOneShot ↔
    scr.AllOneShot ∧ (burst p scr.cubit).OneShot := by
  simp only [AllOneShot, advance, List.forall_mem_append, List.forall_mem_singleton]

theorem settles_changeHost {isValid : Bool} (h : scr.WellFormed) :
    Settles ⟨.changeHost, AccountCubit.changeHost isInHostMode isValid⟩ scr.cubit := by
  rcases settle_changeHost scr.cubit isInHostMode isValid with
    ⟨message, hmessage, hsettle⟩ | hsettle | ⟨userId, isHost, hsettle⟩
  · refine ⟨?_, .inl ⟨_, congrArg Prod.fst hsettle⟩⟩
    rw [hsettle]
    exact fun he => hmessage (Option.some.inj he)
  · refine ⟨?_, .inl ⟨_, congrArg Prod.fst hsettle⟩⟩
    rw [hsettle]
    exact h.message
  · refine ⟨?_, .inr ?_⟩
    · rw [hsettle]
      exact h.message
    · rw [hsettle]
      exact .update userId isHost

/-- The reply to a call that is awaited. -/
theorem reply_spec {source : AccountSource} {op : AccountCall}
    {k : Except DartError Unit → AccountM Bool} {c : AccountCubit}
    (hawaits : Awaits ⟨source, .await op k⟩) (h : c.state.errorMessage ≠ some "")
    (hemitted : c.emitted = []) (reply : Except DartError Unit) :
    Settles ⟨source, k reply⟩ c ∧
      ((burst ⟨source, k reply⟩ c).OneShot ↔ c.state.ClearedFor op reply) := by
  have hupdate : some updateFailed ≠ some "" := by decide
  have hsignOut : some signOutFailed ≠ some "" := by decide
  obtain ⟨s, user, subscription, emitted⟩ := c
  cases hemitted
  generalize hp : (⟨source, .await op k⟩ : AccountProcess) = p at hawaits
  cases hawaits with
  | update userId isHost =>
      cases hp
      cases reply with
      | ok r => exact ⟨⟨h, .inl ⟨_, rfl⟩⟩, oneShot_succeeded_changeHost h nofun⟩
      | error e => exact ⟨⟨hupdate, .inl ⟨_, rfl⟩⟩, oneShot_failed nofun hupdate nofun⟩
  | cancel =>
      cases hp
      cases reply with
      | ok r => exact ⟨⟨h, .inr .leave⟩, oneShot_singleton h⟩
      | error e => exact ⟨⟨h, .inl ⟨_, rfl⟩⟩, iff_of_true oneShot_nil trivial⟩
  | leave =>
      cases hp
      cases reply with
      | ok r => exact ⟨⟨h, .inl ⟨_, rfl⟩⟩, oneShot_succeeded_signOut h⟩
      | error e => exact ⟨⟨hsignOut, .inl ⟨_, rfl⟩⟩, oneShot_failed nofun hsignOut nofun⟩

theorem oneShot_showUser {c : AccountCubit} (h : c.state.errorMessage ≠ some "")
    (hemitted : c.emitted = []) (user : Managed User) :
    (⟨.snapshot, none, (showUser isInHostMode user c).emitted⟩ : Burst).OneShot ↔
      (user.isValid → c.state.Cleared) := by
  obtain ⟨s, u, subscription, emitted⟩ := c
  cases hemitted
  unfold showUser
  split_ifs with hvalid
  · refine Iff.trans (oneShot_singleton h) ?_
    exact ⟨fun hcleared _ => hcleared, fun hcleared => hcleared hvalid⟩
  · exact iff_of_true oneShot_nil (fun h => absurd h hvalid)

/-- The call of `signOut` emits nothing before its first await. -/
theorem oneShot_signOut {c : AccountCubit} (hemitted : c.emitted = []) :
    (burst ⟨.signOut, AccountCubit.signOut⟩ c).OneShot := by
  obtain ⟨s, user, subscription, emitted⟩ := c
  cases hemitted
  exact oneShot_nil

variable (isInHostMode) in
theorem message_showUser (c : AccountCubit) (user : Managed User) :
    (showUser isInHostMode user c).state.errorMessage = c.state.errorMessage := by
  unfold showUser
  split_ifs <;> rfl

/-- One step. -/
theorem step_spec (hwf : scr.WellFormed) (h : step isInHostMode scr e = some scr') :
    scr'.WellFormed ∧ (scr'.AllOneShot ↔ scr.AllOneShot ∧ scr.ClearedBefore e) := by
  cases e with
  | userId reply =>
      simp only [step] at h
      split_ifs at h with hpending
      split at h <;> cases h <;>
        exact ⟨⟨hwf.message, hwf.emitted, hwf.processes⟩, (and_iff_left trivial).symm⟩
  | snapshot user =>
      simp only [step] at h
      split_ifs at h with hlistening
      cases h
      have hmessage := hwf.message
      rw [← message_showUser isInHostMode scr.cubit user] at hmessage
      refine ⟨⟨hmessage, rfl, hwf.processes⟩, ?_⟩
      simp only [AllOneShot, List.forall_mem_append, List.forall_mem_singleton, ClearedBefore,
        hlistening, true_implies]
      exact and_congr_right (fun _ => oneShot_showUser hwf.message hwf.emitted user)
  | changeHost isValid =>
      cases h
      exact ⟨wellFormed_advance hwf (settles_changeHost hwf),
        allOneShot_advance.trans (and_congr_right fun _ =>
          oneShot_changeHost hwf.message hwf.emitted)⟩
  | signOut =>
      cases h
      have hscr : WellFormed { scr with
          listening := scr.listening && !scr.cubit.userSubscription } :=
        ⟨hwf.message, hwf.emitted, hwf.processes⟩
      refine ⟨wellFormed_advance hscr ⟨hwf.message, .inr .cancel⟩, ?_⟩
      exact allOneShot_advance.trans
        (and_congr_right fun _ => iff_of_true (oneShot_signOut hwf.emitted) trivial)
  | answer i reply =>
      simp only [step] at h
      split at h
      · rename_i source op k hprocess
        cases h
        have hawaits := hwf.processes _ (List.mem_of_getElem? hprocess)
        obtain ⟨hsettles, honeShot⟩ := reply_spec hawaits hwf.message hwf.emitted reply
        refine ⟨wellFormed_advance ⟨hwf.message, hwf.emitted, ?_⟩ hsettles, ?_⟩
        · exact fun p hp => hwf.processes p (List.mem_of_mem_eraseIdx hp)
        · rw [allOneShot_advance, honeShot, ClearedBefore, hprocess]
          rfl
      · cases h

theorem clearedBefore_of_disabled (h : step isInHostMode scr e = none) : scr.ClearedBefore e := by
  cases e with
  | userId reply => trivial
  | snapshot user =>
      intro hlistening
      simp [step, hlistening] at h
  | changeHost isValid => cases h
  | signOut => trivial
  | answer i reply =>
      simp only [step] at h
      simp only [ClearedBefore]
      split at h
      · cases h
      · trivial

end Steps

end AccountScreen

/-- Errors and routes are emitted once, and so shown once, exactly in the runs in which every event
that emits finds them cleared. -/
theorem allOneShot_iff_cleared (isInHostMode : Bool) (events : List AccountEvent) :
    Execution.Always (AccountScreen.step isInHostMode) AccountScreen.AllOneShot {} events ↔
      Execution.StepsMeet (AccountScreen.step isInHostMode) AccountScreen.ClearedBefore {}
        events := by
  have hstart : AccountScreen.WellFormed {} := ⟨nofun, rfl, nofun⟩
  exact Execution.always_iff_stepsMeet (R := AccountScreen.WellFormed)
    (fun _ _ _ hwf h => (AccountScreen.step_spec hwf h).1)
    (fun _ _ h => AccountScreen.clearedBefore_of_disabled h)
    (fun _ _ _ hwf hall h => (AccountScreen.step_spec hwf h).2.trans (and_iff_right hall))
    events nofun hstart

/-- After a call that finds no user the next call shows its error again. -/
theorem error_is_shown_again :
    ∃ scr : AccountScreen,
      Execution.run (AccountScreen.step false) {} [.changeHost true, .changeHost true] = some scr ∧
        scr.log.map (fun b => b.emitted.flatMap AccountState.shows) =
          [[AccountCubit.userMissing],
            [AccountCubit.userMissing, AccountCubit.userMissing, AccountCubit.userMissing]] ∧
        ¬ Execution.Always (AccountScreen.step false) AccountScreen.AllOneShot {}
          [.changeHost true, .changeHost true] := by
  refine ⟨_, rfl, rfl, ?_⟩
  intro h
  have hsecond := (h.2 _ rfl).2 _ rfl _ (List.mem_cons_of_mem _ List.mem_cons_self)
  have hshows : 3 = 1 := hsecond.shows
  cases hshows

end AirBnbClone
