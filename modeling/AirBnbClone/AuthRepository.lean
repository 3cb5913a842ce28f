import AirBnbClone.AsyncProgram
import AirBnbClone.Execution
import AirBnbClone.FirestoreEncoder

/-!
# The authentication repository

`AuthRepositoryImpl` keeps the answer to "who is signed in" three times: as the token in the shared
preferences, as the cached flag and as the cached user id. The operations change them at different
points between calls that may throw. They agree as long as no call throws between changing the
token and changing the cache, unless the token already was what the call made of it.
-/

namespace AirBnbClone

open Async

inductive AuthCall
  | createCredential (email password : String)
  | signInCredential (email password : String)
  | uploadImage (file publicId : String)
  | createUser (id : String) (data : Doc)
  | getUser (id : String)
  | fetchToken
  | saveToken (token : Option String)
  | removeToken
  | signOut
  | removeAllListeners
  | deleteAll

/-- A credential is the id of its user, if it has one. -/
abbrev AuthReply : AuthCall → Type
  | .createCredential .. => Option String
  | .signInCredential .. => Option String
  | .uploadImage .. => Option String
  | .createUser .. => Unit
  | .getUser _ => Unit
  | .fetchToken => Option String
  | .saveToken _ => Unit
  | .removeToken => Unit
  | .signOut => Unit
  | .removeAllListeners => Unit
  | .deleteAll => Unit

/-- The fields `_isAuthenticated` and `_userId`. -/
structure AuthCache where
  isAuthenticated : Option Bool
  userId : Option String
  deriving DecidableEq

namespace AuthRepository

abbrev AuthM (α : Type) := Prog AuthReply AuthCache DartError α

abbrev await (op : AuthCall) : AuthM (AuthReply op) := Prog.call op

def fetch : AuthM Unit := do
  let result : Option String ← await .fetchToken
  Prog.emitWith (fun _ => ⟨some result.isSome, result⟩)

def isAuthenticated : AuthM Bool := do
  match (← Prog.state).isAuthenticated with
  | some b => pure b
  | none => do
      fetch
      return (← Prog.state).isAuthenticated.getD false

def userId : AuthM (Option String) := do
  match (← Prog.state).userId with
  | some id => pure (some id)
  | none => do
      fetch
      return (← Prog.state).userId

def userAvatar : String := "user_avatar"

structure SignUp where
  email : String
  password : String
  firstName : String
  lastName : String
  city : String
  country : String
  bio : String
  imageFile : Option String

def uploadAvatar (imageFile : Option String) (id : String) : AuthM (Option String) :=
  match imageFile with
  | some file => await (.uploadImage file (userAvatar ++ "_" ++ id))
  | none => pure none

def newUser (form : SignUp) (id : String) (imageUrl : Option String) : User where
  id := id
  email := some form.email
  bio := some form.bio
  city := some form.city
  country := some form.country
  firstName := some form.firstName
  lastName := some form.lastName
  fullName := some (form.firstName ++ " " ++ form.lastName)
  imageUrl := imageUrl
  isHost := some false
  isCurrentlyHosting := false
  earning := none

def createUser (form : SignUp) : AuthM (Option String) := do
  let firebaseUser : Option String ← await (.createCredential form.email form.password)
  match firebaseUser with
  | some id => do
      let imageUrl ← uploadAvatar form.imageFile id
      await (.createUser id (UserFirestoreExtension.toFirestore (newUser form id imageUrl)))
      await (.saveToken (some id))
      Prog.emitWith (fun _ => ⟨some true, some id⟩)
  | none => Prog.emitWith (fun c => { c with isAuthenticated := some false })
  return firebaseUser

/-- The token is saved before the user is fetched. -/
def signIn (email password : String) : AuthM (Option String) := do
  let firebaseUser : Option String ← await (.signInCredential email password)
  match firebaseUser with
  | some id => do
      await (.saveToken (some id))
      await (.getUser id)
      Prog.emitWith (fun _ => ⟨some true, some id⟩)
  | none => Prog.emitWith (fun c => { c with isAuthenticated := some false })
  return firebaseUser

def signOut : AuthM Unit := do
  await .removeToken
  await .signOut
  await .removeAllListeners
  await .deleteAll
  Prog.emitWith (fun _ => ⟨some false, none⟩)

/-- The preferences answer the token calls; the other services answer, or throw, as they please. -/
def serve (answers : (op : AuthCall) → Except DartError (AuthReply op)) :
    (op : AuthCall) → Option String → Except DartError (AuthReply op) × Option String
  | .fetchToken, token => (.ok token, token)
  | .saveToken token, _ => (.ok (), token)
  | .removeToken, _ => (.ok (), none)
  | op, token => (answers op, token)

end AuthRepository

inductive AuthRequest
  | isAuthenticated
  | userId
  | signIn (email password : String)
  | createUser (form : AuthRepository.SignUp)
  | signOut

/-- A call of the repository and what the services answer during it. -/
structure AuthEvent where
  request : AuthRequest
  answers : (op : AuthCall) → Except DartError (AuthReply op)

structure AuthState where
  token : Option String
  cache : AuthCache

namespace AuthState

open AuthRepository

def program : AuthRequest → AuthM Unit
  | .isAuthenticated => do let _ ← isAuthenticated
  | .userId => do let _ ← AuthRepository.userId
  | .signIn email password => do let _ ← signIn email password
  | .createUser form => do let _ ← createUser form
  | .signOut => signOut

def perform (s : AuthState) (e : AuthEvent) : Except DartError Unit × AuthState :=
  let run := Prog.exec (serve e.answers) (program e.request) s.cache s.token
  (run.1, ⟨run.2.2, run.2.1⟩)

def step (s : AuthState) (e : AuthEvent) : Option AuthState := some (s.perform e).2

/-- What `isAuthenticated` and `userId` answer. -/
def reported (s : AuthState) : Except DartError Bool × Except DartError (Option String) :=
  ((Prog.exec (serve fun _ => .error .unavailable) isAuthenticated s.cache s.token).1,
    (Prog.exec (serve fun _ => .error .unavailable) AuthRepository.userId s.cache s.token).1)

/-- A cached flag is true exactly when a token is stored, and the token is then the cached id. -/
def Agrees (s : AuthState) : Prop :=
  ∀ b, s.cache.isAuthenticated = some b →
    (b = true ↔ s.token.isSome) ∧ (b = true → s.token = s.cache.userId)

/-- If the call throws, the answers stay what they were. -/
def QuietFailure (s : AuthState) (e : AuthEvent) : Prop :=
  ∀ err, (s.perform e).1 = .error err → (s.perform e).2.reported = s.reported

/-- A call that fails after changing the token finds the token it leaves, and a credential without
a user comes only when there is no token. -/
def Careful (s : AuthState) (e : AuthEvent) : Prop :=
  match e.request with
  | .signIn email password =>
      match e.answers (.signInCredential email password) with
      | .ok (some id) => (e.answers (.getUser id)).toOption = none → s.token = some id
      | .ok none => s.token = none
      | .error _ => True
  | .createUser form =>
      match e.answers (.createCredential form.email form.password) with
      | .ok none => s.token = none
      | _ => True
  | .signOut =>
      (e.answers .signOut).toOption = none ∨ (e.answers .removeAllListeners).toOption = none ∨
        (e.answers .deleteAll).toOption = none → s.token = none
  | _ => True

/-- An id is cached only together with the flag. -/
def Cached (s : AuthState) : Prop := s.cache.isAuthenticated = none → s.cache.userId = none

section Effects

variable {s : AuthState} {answers : (op : AuthCall) → Except DartError (AuthReply op)}

theorem reported_eq (s : AuthState) :
    s.reported = (.ok (s.cache.isAuthenticated.getD s.token.isSome),
      .ok (s.cache.userId.or s.token)) := by
  obtain ⟨token, flag, userId⟩ := s
  cases flag <;> cases userId <;> rfl

theorem perform_isAuthenticated (s : AuthState) :
    s.perform ⟨.isAuthenticated, answers⟩ = (.ok (), if s.cache.isAuthenticated.isSome then s
      else ⟨s.token, some s.token.isSome, s.token⟩) := by
  obtain ⟨token, flag, userId⟩ := s
  cases flag <;> rfl

theorem perform_userId (s : AuthState) :
    s.perform ⟨.userId, answers⟩ = (.ok (), if s.cache.userId.isSome then s
      else ⟨s.token, some s.token.isSome, s.token⟩) := by
  obtain ⟨token, flag, userId⟩ := s
  cases userId <;> rfl

/-- The ways `signIn` can end. -/
theorem perform_signIn (s : AuthState) (email password : String)
    (answers : (op : AuthCall) → Except DartError (AuthReply op)) :
    s.perform ⟨.signIn email password, answers⟩ =
      match answers (.signInCredential email password) with
      | .error err => (.error err, s)
      | .ok none => (.ok (), { s with cache := { s.cache with isAuthenticated := some false } })
      | .ok (some id) =>
          match answers (.getUser id) with
          | .error err => (.error err, { s with token := some id })
          | .ok _ => (.ok (), ⟨some id, some true, some id⟩) := by
  obtain ⟨token, cache⟩ := s
  simp only [perform, program, signIn]
  cases hc : answers (.signInCredential email password) with
  | error err => simp [Prog.exec_bind, serve, hc]
  | ok credential =>
      cases credential with
      | none => simp [Prog.exec_bind, serve, hc]
      | some id =>
          cases hu : answers (.getUser id) <;> simp [Prog.exec_bind, serve, hc, hu]

/-- `createUser` either fails with nothing changed, or sees no user, or sets all three. -/
theorem perform_createUser (s : AuthState) (form : SignUp)
    (answers : (op : AuthCall) → Except DartError (AuthReply op)) :
    (∃ err, s.perform ⟨.createUser form, answers⟩ = (.error err, s) ∧
      answers (.createCredential form.email form.password) ≠ .ok none) ∨
    (answers (.createCredential form.email form.password) = .ok none ∧
      s.perform ⟨.createUser form, answers⟩ =
        (.ok (), { s with cache := { s.cache with isAuthenticated := some false } })) ∨
    ∃ id, answers (.createCredential form.email form.password) = .ok (some id) ∧
      s.perform ⟨.createUser form, answers⟩ = (.ok (), ⟨some id, some true, some id⟩) := by
  obtain ⟨token, cache⟩ := s
  simp only [perform, program, createUser, uploadAvatar]
  cases hc : answers (.createCredential form.email form.password) with
  | error err => simp [Prog.exec_bind, serve, hc]
  | ok credential =>
      cases credential with
      | none => simp [Prog.exec_bind, serve, hc]
      | some id =>
          cases hf : form.imageFile with
          | none =>
              cases hu : answers (.createUser id
                (UserFirestoreExtension.toFirestore (newUser form id none))) <;>
                simp [Prog.exec_bind, serve, hc, hu]
          | some file =>
              cases hi : answers (.uploadImage file (userAvatar ++ "_" ++ id)) with
              | error err => simp [Prog.exec_bind, serve, hc, hi]
              | ok imageUrl =>
                  cases hu : answers (.createUser id
                    (UserFirestoreExtension.toFirestore (newUser form id imageUrl))) <;>
                    simp [Prog.exec_bind, serve, hc, hi, hu]

/-- `signOut` removes the token first; if anything fails after that the cache is kept. -/
theorem perform_signOut (s : AuthState)
    (answers : (op : AuthCall) → Except DartError (AuthReply op)) :
    (((answers .signOut).toOption = none ∨ (answers .removeAllListeners).toOption = none ∨
        (answers .deleteAll).toOption = none) ∧
      ∃ err, s.perform ⟨.signOut, answers⟩ = (.error err, { s with token := none })) ∨
    (¬ ((answers .signOut).toOption = none ∨ (answers .removeAllListeners).toOption = none ∨
        (answers .deleteAll).toOption = none) ∧
      s.perform ⟨.signOut, answers⟩ = (.ok (), ⟨none, some false, none⟩)) := by
  obtain ⟨token, cache⟩ := s
  simp only [perform, program, signOut]
  cases ho : answers .signOut with
  | error err => simp [Prog.exec_bind, serve, ho, Except.toOption]
  | ok u =>
      cases hl : answers .removeAllListeners with
      | error err => simp [Prog.exec_bind, serve, ho, hl, Except.toOption]
      | ok u' =>
          cases hd : answers .deleteAll <;>
            simp [Prog.exec_bind, serve, ho, hl, hd, Except.toOption]

end Effects

section Exactness

variable {s : AuthState} {e : AuthEvent}

theorem agrees_fetched (token : Option String) : Agrees ⟨token, some token.isSome, token⟩ := by
  intro b hb
  cases hb
  exact ⟨Iff.rfl, fun _ => rfl⟩

theorem agrees_signedIn (id : String) : Agrees ⟨some id, some true, some id⟩ :=
  agrees_fetched (some id)

/-- A credential without a user is recorded as nobody being signed in. -/
theorem agrees_noUser_iff (s : AuthState) :
    Agrees { s with cache := { s.cache with isAuthenticated := some false } } ↔
      s.token = none := by
  constructor
  · intro h
    have hflag := (h false rfl).1
    simpa using hflag
  · intro h b hb
    cases hb
    simp [h]

/-- When only the token changes and the call throws, all is well exactly if it did not change. -/
theorem agrees_setToken_iff (hs : s.Agrees) (hcached : s.Cached) (token : Option String) :
    Agrees { s with token := token } ∧ reported { s with token := token } = s.reported ↔
      s.token = token := by
  constructor
  · rintro ⟨hagrees, hreported⟩
    cases hflag : s.cache.isAuthenticated with
    | none =>
        rw [reported_eq, reported_eq] at hreported
        have hid := congrArg Prod.snd hreported
        simp only [hcached hflag, Option.none_or] at hid
        exact (Except.ok.inj hid).symm
    | some b =>
        obtain ⟨hiff, heq⟩ := hs b hflag
        obtain ⟨hiff', heq'⟩ := hagrees b hflag
        cases b with
        | true => exact (heq rfl).trans (heq' rfl).symm
        | false =>
            have hnone : s.token = none := by simpa using hiff
            have hnone' : token = none := by simpa using hiff'
            rw [hnone, hnone']
  · rintro rfl
    exact ⟨hs, rfl⟩

theorem quietFailure_of_ok {s' : AuthState} (h : s.perform e = (.ok (), s')) :
    s.QuietFailure e := by
  intro err herr
  rw [h] at herr
  cases herr

theorem quietFailure_of_error {err : DartError} {s' : AuthState}
    (h : s.perform e = (.error err, s')) : s.QuietFailure e ↔ s'.reported = s.reported := by
  unfold QuietFailure
  rw [h]
  exact ⟨fun hq => hq err rfl, fun hq _ _ => hq⟩

/-- A getter that finds the flag changes nothing, and otherwise caches what the token says. -/
theorem agrees_lookup (hs : s.Agrees) {p : Prop} [Decidable p]
    (h : s.perform e = (.ok (), if p then s else ⟨s.token, some s.token.isSome, s.token⟩)) :
    (s.perform e).2.Agrees ∧ s.QuietFailure e := by
  refine ⟨?_, quietFailure_of_ok h⟩
  rw [h]
  dsimp only
  split_ifs
  · exact hs
  · exact agrees_fetched s.token

theorem agrees_step_iff (hs : s.Agrees) (hcached : s.Cached) :
    (s.perform e).2.Agrees ∧ s.QuietFailure e ↔ s.Careful e := by
  obtain ⟨request, answers⟩ := e
  cases request with
  | isAuthenticated => exact iff_of_true (agrees_lookup hs (perform_isAuthenticated s)) trivial
  | userId => exact iff_of_true (agrees_lookup hs (perform_userId s)) trivial
  | signIn email password =>
      have hrun := perform_signIn s email password answers
      dsimp only [Careful]
      cases hc : answers (.signInCredential email password) with
      | error err =>
          rw [hc] at hrun
          refine iff_of_true ⟨?_, (quietFailure_of_error hrun).mpr rfl⟩ trivial
          rw [hrun]
          exact hs
      | ok credential =>
          cases credential with
          | none =>
              rw [hc] at hrun
              rw [and_iff_left (quietFailure_of_ok hrun), hrun]
              exact agrees_noUser_iff s
          | some id =>
              rw [hc] at hrun
              dsimp only at hrun ⊢
              cases hu : answers (.getUser id) with
              | error err =>
                  rw [hu] at hrun
                  rw [quietFailure_of_error hrun, hrun, agrees_setToken_iff hs hcached]
                  exact ⟨fun h _ => h, fun h => h rfl⟩
              | ok u =>
                  rw [hu] at hrun
                  refine iff_of_true ⟨?_, quietFailure_of_ok hrun⟩ nofun
                  rw [hrun]
                  exact agrees_signedIn id
  | createUser form =>
      dsimp only [Careful]
      rcases perform_createUser s form answers with ⟨err, hrun, hc⟩ | ⟨hc, hrun⟩ | ⟨id, hc, hrun⟩
      · refine iff_of_true ⟨?_, (quietFailure_of_error hrun).mpr rfl⟩ ?_
        · rw [hrun]
          exact hs
        · split
          · exact absurd ‹_› hc
          · trivial
      · rw [and_iff_left (quietFailure_of_ok hrun), hrun, hc]
        exact agrees_noUser_iff s
      · refine iff_of_true ⟨?_, quietFailure_of_ok hrun⟩ ?_
        · rw [hrun]
          exact agrees_signedIn id
        · rw [hc]
          trivial
  | signOut =>
      dsimp only [Careful]
      rcases perform_signOut s answers with ⟨hfail, err, hrun⟩ | ⟨hsucceed, hrun⟩
      · rw [quietFailure_of_error hrun, hrun, agrees_setToken_iff hs hcached]
        exact ⟨fun h _ => h, fun h => h hfail⟩
      · refine iff_of_true ⟨?_, quietFailure_of_ok hrun⟩ (fun h => absurd h hsucceed)
        rw [hrun]
        exact agrees_fetched none

theorem cached_perform (hcached : s.Cached) : (s.perform e).2.Cached := by
  have hset {token userId : Option String} {b : Bool} : Cached ⟨token, some b, userId⟩ := nofun
  obtain ⟨request, answers⟩ := e
  cases request with
  | isAuthenticated =>
      rw [perform_isAuthenticated]
      dsimp only
      split_ifs
      · exact hcached
      · exact hset
  | userId =>
      rw [perform_userId]
      dsimp only
      split_ifs
      · exact hcached
      · exact hset
  | signIn email password =>
      rw [perform_signIn]
      split
      · exact hcached
      · exact hset
      · split
        · exact hcached
        · exact hset
  | createUser form =>
      rcases perform_createUser s form answers with ⟨err, hrun, -⟩ | ⟨-, hrun⟩ | ⟨id, -, hrun⟩
      · rw [hrun]
        exact hcached
      · rw [hrun]
        exact hset
      · rw [hrun]
        exact hset
  | signOut =>
      rcases perform_signOut s answers with ⟨-, err, hrun⟩ | ⟨-, hrun⟩
      · rw [hrun]
        exact hcached
      · rw [hrun]
        exact hset

end Exactness

def start (token : Option String) : AuthState := ⟨token, none, none⟩

/-- Along every sequence of calls, cache and token agree and failures change no answer exactly when
every call is careful. -/
theorem agrees_iff_careful (token : Option String) (events : List AuthEvent) :
    Execution.Always step Agrees (start token) events ∧
        Execution.StepsMeet step QuietFailure (start token) events ↔
      Execution.StepsMeet step Careful (start token) events := by
  refine Execution.always_and_stepsMeet_iff (R := Cached) ?_ nofun ?_ events nofun (fun _ => rfl)
  · intro s e s' hs hstep
    cases hstep
    exact cached_perform hs
  · intro s e s' hcached hs hstep
    cases hstep
    exact agrees_step_iff hs hcached

def noUserDocument : (op : AuthCall) → Except DartError (AuthReply op)
  | .createCredential .. => .ok (some "u1")
  | .signInCredential .. => .ok (some "u1")
  | .uploadImage .. => .ok none
  | .createUser .. => .ok ()
  | .getUser _ => .error .unavailable
  | .fetchToken => .ok none
  | .saveToken _ => .ok ()
  | .removeToken => .ok ()
  | .signOut => .ok ()
  | .removeAllListeners => .ok ()
  | .deleteAll => .ok ()

/-- The app asks who is signed in, then a sign-in fails: the token stays behind. -/
theorem failed_signIn_leaves_token : ∃ s,
    Execution.run step (start none) [⟨.isAuthenticated, noUserDocument⟩,
        ⟨.signIn "ann@mail.com" "secret", noUserDocument⟩] = some s ∧
      s.token = some "u1" ∧ s.cache.isAuthenticated = some false ∧ ¬ s.Agrees := by
  refine ⟨_, rfl, rfl, rfl, ?_⟩
  intro h
  have hflag := (h false rfl).1
  exact absurd (hflag.mpr rfl) (by decide)

end AuthState

end AirBnbClone
