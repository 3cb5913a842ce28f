import AirBnbClone.AuthRepository

/-!
# Overlapping calls of the authentication repository

Getters and session operations of `AuthRepositoryImpl` interleave at their awaits. The preferences
handle their calls in the order in which these are made, so a token call takes effect when it is
made, and a token that was read may be an old one when the getter goes on. If session operations do
not overlap, fail only while the token is what it was and end while no old token is on its way, then
every getter answers with a token that was stored while it ran, or since the session operation began
that it overlaps with.
-/

namespace AirBnbClone

open Async AuthRepository

/-- What a getter answers; a session operation just ends. -/
inductive AuthAnswer
  | flag (b : Bool)
  | user (id : Option String)
  | ended

inductive AuthGetter
  | isAuthenticated
  | userId

inductive SessionCall
  | signIn (email password : String)
  | createUser (form : SignUp)
  | signOut

def AuthGetter.program : AuthGetter → AuthM AuthAnswer
  | isAuthenticated => do return .flag (← AuthRepository.isAuthenticated)
  | userId => do return .user (← AuthRepository.userId)

def SessionCall.program : SessionCall → AuthM AuthAnswer
  | signIn email password => do
      let _ ← AuthRepository.signIn email password
      return .ended
  | createUser form => do
      let _ ← AuthRepository.createUser form
      return .ended
  | signOut => do
      AuthRepository.signOut
      return .ended

/-- A getter that awaits the token: what the preferences have found for it, and the tokens that
were stored meanwhile. -/
structure Reading where
  program : AuthM AuthAnswer
  token : Option String
  seen : Finset (Option String)

def Reading.see (token : Option String) (p : Reading) : Reading :=
  { p with seen := insert token p.seen }

structure AuthReport where
  result : Except DartError AuthAnswer
  seen : Finset (Option String)

/-- `held` are the tokens stored since the session operation under way was called; without one,
the token. -/
structure SharedAuth where
  token : Option String
  cache : AuthCache
  sessions : List (AuthM AuthAnswer)
  readings : List Reading
  held : Finset (Option String)
  reports : List AuthReport

inductive SharedAuthEvent
  | get (getter : AuthGetter)
  | read (i : ℕ)
  | call (op : SessionCall)
  | reply (i : ℕ) (answers : (op : AuthCall) → Except DartError (AuthReply op))

namespace SharedAuth

def start (token : Option String) : SharedAuth := ⟨token, ⟨none, none⟩, [], [], {token}, []⟩

/-- What the preferences hold once a program has made the call that it awaits. -/
def issued : AuthM AuthAnswer → Option String → Option String
  | .await op _, token => (serve (fun _ => .error .unavailable) op token).2
  | _, token => token

/-- Run a getter to its end or to its only call, that of `fetchToken`. -/
def advanceGetter (s : SharedAuth) (program : AuthM AuthAnswer) (seen : Finset (Option String)) :
    SharedAuth :=
  match Prog.settle program s.cache with
  | (.done result, cache) => { s with cache := cache, reports := s.reports ++ [⟨result, seen⟩] }
  | (program, cache) =>
      { s with cache := cache, readings := s.readings ++ [⟨program, s.token, seen⟩] }

/-- Run a session operation to its end or to its next call, and make that call. -/
def advanceSession (s : SharedAuth) (program : AuthM AuthAnswer) : SharedAuth :=
  match Prog.settle program s.cache with
  | (.done _, cache) =>
      { s with cache := cache, held := if s.sessions.isEmpty then {s.token} else s.held }
  | (program, cache) => { s with
      token := issued program s.token
      cache := cache
      sessions := s.sessions ++ [program]
      readings := s.readings.map (Reading.see (issued program s.token))
      held := insert (issued program s.token) s.held }

def step (s : SharedAuth) : SharedAuthEvent → Option SharedAuth
  | .get getter => some (s.advanceGetter getter.program s.held)
  | .read i =>
      match s.readings[i]? with
      | some ⟨.await op k, token, seen⟩ =>
          some ({ s with readings := s.readings.eraseIdx i }.advanceGetter
            (k (serve (fun _ => .error .unavailable) op token).1) seen)
      | _ => none
  | .call op => some (s.advanceSession op.program)
  | .reply i answers =>
      match s.sessions[i]? with
      | some (.await op k) =>
          some ({ s with sessions := s.sessions.eraseIdx i }.advanceSession
            (k (serve answers op s.token).1))
      | _ => none

/-- A credential without a user comes only when there is no token. -/
def Admissible (token : Option String) : (op : AuthCall) → Except DartError (AuthReply op) → Prop
  | .createCredential .., reply => reply = .ok (none : Option String) → token = none
  | .signInCredential .., reply => reply = .ok (none : Option String) → token = none
  | _, _ => True

/-- How a session operation may end: well, when no old token is on its way, or with an error, while
the token is what it was. -/
def EndsWell (s : SharedAuth) : AuthM AuthAnswer → Prop
  | .done (.ok _) => ∀ p ∈ s.readings, p.token = s.token
  | .done (.error _) => s.held = {s.token}
  | _ => True

/-- Session operations are called one after the other and end well. -/
def Orderly (s : SharedAuth) : SharedAuthEvent → Prop
  | .call _ => s.sessions = []
  | .reply i answers =>
      match s.sessions[i]? with
      | some (.await op k) => Admissible s.token op (serve answers op s.token).1 ∧
          s.EndsWell (Prog.settle (k (serve answers op s.token).1) s.cache).1
      | _ => True
  | _ => True

end SharedAuth

def AuthAnswer.Of (token : Option String) : AuthAnswer → Prop
  | flag b => b = token.isSome
  | user id => id = token
  | ended => False

/-- The getter answers, and answers as it would with one of the tokens seen. -/
def AuthReport.Regular (r : AuthReport) : Prop :=
  ∃ answer, r.result = .ok answer ∧ ∃ token ∈ r.seen, answer.Of token

namespace SharedAuth

def fetched (token : Option String) : AuthCache := ⟨some token.isSome, token⟩

/-- The cache is unset, or what one of these tokens was cached as. -/
def CacheOf (held : Finset (Option String)) (c : AuthCache) : Prop :=
  c = ⟨none, none⟩ ∨ ∃ token ∈ held, c = fetched token

/-- A session operation, run from a token and a cache, leaves one cache for the other tokens held
until it ends with the cache of the token. -/
def Leads : AuthM AuthAnswer → Finset (Option String) → Option String → AuthCache → Prop
  | .done (.ok _), _, token, c => c = fetched token
  | .done (.error _), held, _, c => CacheOf held c
  | .read k, held, token, c => Leads (k c) held token c
  | .emit c k, held, token, _ => Leads k held token c
  | .await op k, held, token, c => CacheOf held c ∧
      ∀ r c', Admissible (issued (.await op k) token) op r →
        CacheOf (insert (issued (.await op k) token) held) c' →
          Leads (k r) (insert (issued (.await op k) token) held) (issued (.await op k) token) c'

variable {held : Finset (Option String)} {token : Option String} {c : AuthCache}
  {p : AuthM AuthAnswer} {s s' : SharedAuth}

theorem Leads.settle (h : Leads p held token c) :
    Leads (Prog.settle p c).1 held token (Prog.settle p c).2 := by
  induction p generalizing c with
  | done result => exact h
  | read k ih => exact ih c h
  | emit c' k ih => exact ih h
  | await op k ih => exact h

theorem CacheOf.insert {token : Option String} (h : CacheOf held c) :
    CacheOf (insert token held) c :=
  h.imp_right (fun ⟨v, hv, hc⟩ => ⟨v, Finset.mem_insert_of_mem hv, hc⟩)

/-- A credential without a user leaves the cache of no token. -/
theorem noUser_eq_fetched (h : CacheOf {none} c) :
    { c with isAuthenticated := some false } = fetched none := by
  rcases h with rfl | ⟨v, hv, rfl⟩
  · rfl
  · cases Finset.mem_singleton.mp hv
    rfl

/-- An operation that fails at an await leaves the cache as it is. -/
theorem leads_await {op : AuthCall} {k : Except DartError (AuthReply op) → AuthM AuthAnswer}
    (h : CacheOf held c) (herror : ∀ err, k (.error err) = .done (.error err))
    (hok : ∀ a c', Admissible (issued (.await op k) token) op (.ok a) →
      CacheOf (insert (issued (.await op k) token) held) c' →
        Leads (k (.ok a)) (insert (issued (.await op k) token) held)
          (issued (.await op k) token) c') :
    Leads (.await op k) held token c := by
  refine ⟨h, ?_⟩
  intro r c' hr hc'
  cases r with
  | error err =>
      rw [herror]
      exact hc'
  | ok a => exact hok a c' hr hc'

theorem leads_signIn (email password : String) (h : CacheOf {token} c) :
    Leads (SessionCall.signIn email password).program {token} token c := by
  refine leads_await h (fun _ => rfl) ?_
  intro (credential : Option String) c₁ hnone hc₁
  rw [show issued _ token = token from rfl, Finset.insert_eq_of_mem (Finset.mem_singleton_self _)]
    at hc₁ ⊢
  cases credential with
  | none =>
      obtain rfl : token = none := hnone rfl
      exact noUser_eq_fetched hc₁
  | some id =>
      refine leads_await hc₁ (fun _ => rfl) (fun saved c₂ _ hc₂ => ?_)
      exact leads_await hc₂ (fun _ => rfl) (fun user c₃ _ hc₃ => rfl)

theorem leads_createUser (form : SignUp) (h : CacheOf {token} c) :
    Leads (SessionCall.createUser form).program {token} token c := by
  refine leads_await h (fun _ => rfl) ?_
  intro (credential : Option String) c₁ hnone hc₁
  rw [show issued _ token = token from rfl, Finset.insert_eq_of_mem (Finset.mem_singleton_self _)]
    at hc₁ ⊢
  cases credential with
  | none =>
      obtain rfl : token = none := hnone rfl
      exact noUser_eq_fetched hc₁
  | some id =>
      obtain ⟨email, password, firstName, lastName, city, country, bio, imageFile⟩ := form
      cases imageFile with
      | none =>
          refine leads_await hc₁ (fun _ => rfl) (fun created c₂ _ hc₂ => ?_)
          exact leads_await hc₂ (fun _ => rfl) (fun saved c₃ _ hc₃ => rfl)
      | some file =>
          refine leads_await hc₁ (fun _ => rfl) (fun imageUrl c₂ _ hc₂ => ?_)
          refine leads_await hc₂ (fun _ => rfl) (fun created c₃ _ hc₃ => ?_)
          exact leads_await hc₃ (fun _ => rfl) (fun saved c₄ _ hc₄ => rfl)

theorem leads_signOut (h : CacheOf {token} c) :
    Leads SessionCall.signOut.program {token} token c := by
  refine leads_await h (fun _ => rfl) (fun removed c₁ _ hc₁ => ?_)
  refine leads_await hc₁ (fun _ => rfl) (fun out c₂ _ hc₂ => ?_)
  refine leads_await hc₂ (fun _ => rfl) (fun listeners c₃ _ hc₃ => ?_)
  exact leads_await hc₃ (fun _ => rfl) (fun deleted c₄ _ hc₄ => rfl)

theorem leads_program (op : SessionCall) (h : CacheOf {token} c) :
    Leads op.program {token} token c := by
  cases op with
  | signIn email password => exact leads_signIn email password h
  | createUser form => exact leads_createUser form h
  | signOut => exact leads_signOut h

/-- A getter at its only await: the token that comes back is cached and answered. -/
def AwaitsToken (p : AuthM AuthAnswer) : Prop :=
  ∃ k, p = .await .fetchToken k ∧ ∀ token c, ∃ answer,
    Prog.settle (k (.ok token)) c = (.done (.ok answer), fetched token) ∧ answer.Of token

/-- A getter answers from the cache or goes on to read the token. -/
theorem settle_getter (getter : AuthGetter) (h : CacheOf held c) :
    (∃ answer, Prog.settle getter.program c = (.done (.ok answer), c) ∧
      ∃ token ∈ held, answer.Of token) ∨
      ∃ p, Prog.settle getter.program c = (p, c) ∧ AwaitsToken p := by
  rcases h with rfl | ⟨token, htoken, rfl⟩
  · cases getter with
    | isAuthenticated =>
        exact .inr ⟨_, rfl, _, rfl, fun token c => ⟨.flag token.isSome, rfl, rfl⟩⟩
    | userId => exact .inr ⟨_, rfl, _, rfl, fun token c => ⟨.user token, rfl, rfl⟩⟩
  · cases getter with
    | isAuthenticated => exact .inl ⟨_, rfl, token, htoken, rfl⟩
    | userId =>
        cases token with
        | none => exact .inr ⟨_, rfl, _, rfl, fun token c => ⟨.user token, rfl, rfl⟩⟩
        | some id => exact .inl ⟨_, rfl, some id, htoken, rfl⟩

/-- The session operation under way leads on from each reply. -/
def Continues (s : SharedAuth) (p : AuthM AuthAnswer) : Prop :=
  ∃ op k, p = .await op k ∧ ∀ r c, Admissible s.token op r → CacheOf s.held c →
    Leads (k r) s.held s.token c

structure Inv (s : SharedAuth) : Prop where
  cache : CacheOf s.held s.cache
  stored : s.token ∈ s.held
  alone : s.sessions = [] ∧ s.held = {s.token} ∨ ∃ p, s.sessions = [p] ∧ s.Continues p
  readings : ∀ p ∈ s.readings, AwaitsToken p.program ∧ p.token ∈ s.held ∧ s.held ⊆ p.seen
  reports : ∀ r ∈ s.reports, r.Regular

theorem inv_start (token : Option String) : (start token).Inv where
  cache := .inl rfl
  stored := Finset.mem_singleton_self token
  alone := .inl ⟨rfl, rfl⟩
  readings := nofun
  reports := nofun

theorem inv_get (h : s.Inv) (getter : AuthGetter) :
    (s.advanceGetter getter.program s.held).Inv := by
  unfold advanceGetter
  rcases settle_getter getter h.cache with ⟨answer, hsettle, hof⟩ | ⟨p, hsettle, hawaits⟩
  · rw [hsettle]
    refine ⟨h.cache, h.stored, h.alone, h.readings, ?_⟩
    intro r hr
    rcases List.mem_append.mp hr with hr | hr
    · exact h.reports r hr
    · rw [List.mem_singleton.mp hr]
      exact ⟨answer, rfl, hof⟩
  · rw [hsettle]
    obtain ⟨k, rfl, hk⟩ := hawaits
    refine ⟨h.cache, h.stored, h.alone, ?_, h.reports⟩
    intro q hq
    rcases List.mem_append.mp hq with hq | hq
    · exact h.readings q hq
    · rw [List.mem_singleton.mp hq]
      exact ⟨⟨k, rfl, hk⟩, h.stored, Finset.Subset.refl _⟩

theorem inv_read (h : s.Inv) {i : ℕ} {p : Reading} (hp : s.readings[i]? = some p)
    (hstep : s.step (.read i) = some s') : s'.Inv := by
  obtain ⟨⟨k, hprogram, hk⟩, htoken, hseen⟩ := h.readings p (List.mem_of_getElem? hp)
  obtain ⟨program, token, seen⟩ := p
  dsimp only at hprogram htoken hseen
  subst hprogram
  simp only [step, hp] at hstep
  cases hstep
  obtain ⟨answer, hsettle, hof⟩ := hk token s.cache
  unfold advanceGetter
  dsimp only [serve]
  rw [hsettle]
  refine ⟨.inr ⟨token, htoken, rfl⟩, h.stored, h.alone, ?_, ?_⟩
  · exact fun q hq => h.readings q (List.mem_of_mem_eraseIdx hq)
  · intro r hr
    rcases List.mem_append.mp hr with hr | hr
    · exact h.reports r hr
    · rw [List.mem_singleton.mp hr]
      exact ⟨answer, rfl, token, hseen htoken, hof⟩

/-- A session operation that is alone runs to its end or to its next await. -/
theorem inv_advanceSession (hnone : s.sessions = []) (hstored : s.token ∈ s.held)
    (hreadings : ∀ p ∈ s.readings, AwaitsToken p.program ∧ p.token ∈ s.held ∧ s.held ⊆ p.seen)
    (hreports : ∀ r ∈ s.reports, r.Regular) (hleads : Leads p s.held s.token s.cache)
    (hends : s.EndsWell (Prog.settle p s.cache).1) : (s.advanceSession p).Inv := by
  have hsettle := hleads.settle
  have hcases := Prog.settle_done_or_await p s.cache
  unfold advanceSession
  generalize Prog.settle p s.cache = next at hsettle hcases hends ⊢
  obtain ⟨p', c⟩ := next
  dsimp only at hsettle hcases hends
  have hself (hreading : ∀ q ∈ s.readings, q.token = s.token) : ∀ q ∈ s.readings,
      AwaitsToken q.program ∧ q.token ∈ ({s.token} : Finset _) ∧ {s.token} ⊆ q.seen := by
    intro q hq
    obtain ⟨hawaits, -, hseen⟩ := hreadings q hq
    exact ⟨hawaits, Finset.mem_singleton.mpr (hreading q hq),
      Finset.singleton_subset_iff.mpr (hseen hstored)⟩
  rcases hcases with ⟨result, rfl⟩ | ⟨op, k, rfl⟩
  · have hheld : (if s.sessions.isEmpty then {s.token} else s.held) = {s.token} := by
      rw [hnone]
      rfl
    dsimp only
    rw [hheld]
    cases result with
    | ok a =>
        exact ⟨.inr ⟨s.token, Finset.mem_singleton_self _, hsettle⟩, Finset.mem_singleton_self _,
          .inl ⟨hnone, rfl⟩, hself hends, hreports⟩
    | error err =>
        have hreading (q : Reading) (hq : q ∈ s.readings) : q.token = s.token := by
          have hmem := (hreadings q hq).2.1
          rw [show s.held = {s.token} from hends] at hmem
          exact Finset.mem_singleton.mp hmem
        have hcache : CacheOf {s.token} c := by
          rw [← show s.held = {s.token} from hends]
          exact hsettle
        exact ⟨hcache, Finset.mem_singleton_self _, .inl ⟨hnone, rfl⟩, hself hreading, hreports⟩
  · obtain ⟨hcache, hcontinues⟩ := hsettle
    refine ⟨hcache.insert, Finset.mem_insert_self _ _, .inr ⟨.await op k, ?_, op, k, rfl, ?_⟩, ?_,
      hreports⟩
    · rw [hnone]
      rfl
    · exact hcontinues
    · intro q hq
      obtain ⟨q₀, hq₀, rfl⟩ := List.mem_map.mp hq
      obtain ⟨hawaits, htoken, hseen⟩ := hreadings q₀ hq₀
      exact ⟨hawaits, Finset.mem_insert_of_mem htoken, Finset.insert_subset_insert _ hseen⟩

theorem inv_step {e : SharedAuthEvent} (h : s.Inv) (hC : s.Orderly e)
    (hstep : s.step e = some s') : s'.Inv := by
  cases e with
  | get getter =>
      cases hstep
      exact inv_get h getter
  | read i =>
      cases hp : s.readings[i]? with
      | none => simp [step, hp] at hstep
      | some p => exact inv_read h hp hstep
  | call op =>
      cases hstep
      have hnone : s.sessions = [] := hC
      have hheld : s.held = {s.token} := by
        rcases h.alone with ⟨-, hheld⟩ | ⟨p, hp, -⟩
        · exact hheld
        · rw [hp] at hnone
          cases hnone
      refine inv_advanceSession hnone h.stored h.readings h.reports ?_ ?_
      · rw [hheld]
        exact leads_program op (hheld ▸ h.cache)
      · cases op <;> trivial
  | reply i answers =>
      rcases h.alone with ⟨hnone, -⟩ | ⟨p, hp, op, k, rfl, hcontinues⟩
      · simp [step, hnone] at hstep
      · cases i with
        | succ i => simp [step, hp] at hstep
        | zero =>
            have hget : s.sessions[0]? = some (.await op k) := by rw [hp, List.getElem?_cons_zero]
            have hgone : s.sessions.eraseIdx 0 = [] := by rw [hp, List.eraseIdx_cons_zero]
            simp only [step, hget, hgone] at hstep
            simp only [Orderly, hget] at hC
            cases hstep
            exact inv_advanceSession rfl h.stored h.readings h.reports
              (hcontinues _ _ hC.1 h.cache) hC.2

theorem CacheOf.agrees (h : CacheOf {token} c) : AuthState.Agrees ⟨token, c⟩ := by
  rcases h with rfl | ⟨v, hv, rfl⟩
  · exact nofun
  · cases Finset.mem_singleton.mp hv
    exact AuthState.agrees_fetched token

/-- However the calls of the repository interleave: if session operations come one after the other
and each ends well (a credential without a user comes only while no token is stored; at a success
no getter is reading an old token; at an error the token is what it was), every getter answers as it
would with a token that was stored while it ran, or since the session operation began that was under
way when it was called, and between session operations the cache agrees with the token. -/
theorem getters_regular (token : Option String) (events : List SharedAuthEvent) (s : SharedAuth)
    (horderly : Execution.StepsMeet step Orderly (start token) events)
    (hrun : Execution.run step (start token) events = some s) :
    (∀ r ∈ s.reports, r.Regular) ∧ (s.sessions = [] → AuthState.Agrees ⟨s.token, s.cache⟩) := by
  have hinv : s.Inv := (Execution.always_of_stepsMeet (P := Inv)
    (fun _ _ _ h hC hstep => inv_step h hC hstep) (inv_start token) horderly).final hrun
  refine ⟨hinv.reports, fun hnone => ?_⟩
  rcases hinv.alone with ⟨-, hheld⟩ | ⟨p, hp, -⟩
  · have hcache := hinv.cache
    rw [hheld] at hcache
    exact hcache.agrees
  · rw [hp] at hnone
    cases hnone

def annSignsIn : (op : AuthCall) → Except DartError (AuthReply op)
  | .signInCredential .. => .ok (some "u1")
  | .getUser _ => .ok ()
  | _ => .error .unavailable

def askedMeanwhile : List SharedAuthEvent :=
  [.get .userId, .read 0, .call (.signIn "ann@mail.com" "secret"), .get .isAuthenticated,
    .reply 0 annSignsIn, .get .userId, .reply 0 annSignsIn, .read 0, .reply 0 annSignsIn,
    .get .userId]

theorem getters_regular_askedMeanwhile : ∃ s,
    Execution.run step (start none) askedMeanwhile = some s ∧ s.reports.length = 4 ∧
      (∀ r ∈ s.reports, r.Regular) ∧
      (s.sessions = [] → AuthState.Agrees ⟨s.token, s.cache⟩) := by
  refine ⟨_, rfl, rfl, getters_regular none askedMeanwhile _ ?_ rfl⟩
  refine Execution.stepsMeet_cons trivial rfl (Execution.stepsMeet_cons trivial rfl
    (Execution.stepsMeet_cons rfl rfl (Execution.stepsMeet_cons trivial rfl
      (Execution.stepsMeet_cons ⟨nofun, trivial⟩ rfl (Execution.stepsMeet_cons trivial rfl
        (Execution.stepsMeet_cons ⟨trivial, trivial⟩ rfl (Execution.stepsMeet_cons trivial rfl
          (Execution.stepsMeet_cons ⟨trivial, nofun⟩ rfl
            (Execution.stepsMeet_cons trivial rfl trivial)))))))))

/-- A token that is on its way when Ann has signed in makes the cache forget her. -/
example : (Execution.run step (start none) [.get .userId, .call (.signIn "ann@mail.com" "secret"),
    .reply 0 annSignsIn, .reply 0 annSignsIn, .reply 0 annSignsIn, .read 0]).map
      (fun s => (s.token, s.cache)) = some (some "u1", ⟨some false, none⟩) := rfl

end SharedAuth

end AirBnbClone
