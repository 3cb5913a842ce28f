import AirBnbClone.AuthRepository
import AirBnbClone.CallBudget
import AirBnbClone.Execution

/-!
# The sign-up screen

`SignupCubit` keeps the picked picture and the state of the sign-up in one state, which pictures
that are picked and sign-ups that end replace in any order. The button is hidden while the state is
loading. A picture goes to the repository with one sign-up at most, and the listener of the screen
shows the message of every failed state that is emitted, whoever emits it.
-/

namespace AirBnbClone

open Async AuthRepository

inductive SignupStatus
  | initial
  | loading
  | success
  | failure
  deriving DecidableEq

structure SignupState where
  status : SignupStatus := .initial
  errorMessage : Option String := none
  imageFile : Option String := none
  deriving DecidableEq

namespace SignupState

def isLoading (s : SignupState) : Bool := s.status = .loading

def isFailure (s : SignupState) : Bool := s.status = .failure

def shows (s : SignupState) : List String := if s.isFailure then s.errorMessage.toList else []

end SignupState

/-- What a call throws: the code of a `FirebaseAuthException` or the text of anything else. -/
inductive AuthException
  | firebaseAuth (code : String)
  | other (text : String)

inductive SignupCall
  | pickImageFromGallery (compressQuality : ℤ)
  | createUser (form : SignUp)

/-- A file, and the user of the credential, if there is one. -/
abbrev SignupReply : SignupCall → Type := fun _ => Option String

namespace SignupCubit

abbrev SignupM (α : Type) := Prog SignupReply SignupState AuthException α

def fillAllFields : String := "Please fill all fields and choose a profile picture."

def signUpFailed : String := "Sign up failed. Please try again later."

def mapAuthError (code : String) : String :=
  if code = "email-already-in-use" then "This email is already registered."
  else if code = "invalid-email" then "Please enter a valid email address."
  else if code = "weak-password" then
    "Password is too weak. Please use a stronger one. Use at-least 6 characters"
  else signUpFailed

/-- The message of the two `catch` clauses. -/
def message : AuthException → String
  | .firebaseAuth code => mapAuthError code
  | .other text => text

def chooseImage : SignupM Unit := do
  let file : Option String ← Prog.call (.pickImageFromGallery 50)
  Prog.emitWith (fun s => ⟨s.status, s.errorMessage, file⟩)

def register (form : SignUp) : SignupM Unit :=
  Prog.tryCatch
    (do
      let user : Option String ← Prog.call (.createUser form)
      match user with
      | some _ => Prog.emitWith (fun _ => { status := .success })
      | none =>
          Prog.emitWith (fun _ => { status := .failure, errorMessage := some signUpFailed }))
    (fun e => Prog.emitWith (fun _ => { status := .failure, errorMessage := some (message e) }))

/-- `valid` is the answer of the form's validators, if the form is there; the fields of the screen
have none. The picture of `form` is not read. -/
def createAccount (valid : Option Bool) (form : SignUp) : SignupM Unit := do
  let s ← Prog.state
  if valid = some false ∨ s.imageFile = none then
    Prog.emitWith (fun s => ⟨.failure, some fillAllFields, s.imageFile⟩)
  else do
    Prog.emitWith (fun s => { status := .loading, imageFile := s.imageFile })
    register { form with imageFile := s.imageFile }

end SignupCubit

inductive SignupSource
  | chooseImage
  | createAccount
  deriving DecidableEq

structure SignupProcess where
  source : SignupSource
  program : SignupCubit.SignupM Unit

/-- The cubit with its calls that are still awaiting something. `emitted` are the states so far with
the functions that have emitted them, `sent` the pictures that went with the sign-ups and `picked`
those that the user has picked. -/
structure SignUpScreen where
  state : SignupState := {}
  processes : List SignupProcess := []
  emitted : List (SignupSource × SignupState) := []
  sent : List (Option String) := []
  picked : List String := []

inductive SignupEvent
  | chooseImage
  | createAccount (valid : Option Bool) (form : SignUp)
  | answer (i : ℕ) (reply : Except AuthException (Option String))

namespace SignUpScreen

open SignupCubit

def picture : SignupM Unit → List (Option String)
  | .await (.createUser form) _ => [form.imageFile]
  | _ => []

def advance (scr : SignUpScreen) (p : SignupProcess) : SignUpScreen := { scr with
  state := (Prog.settle p.program scr.state).2
  processes := match (Prog.settle p.program scr.state).1 with
    | .done _ => scr.processes
    | program => scr.processes ++ [⟨p.source, program⟩]
  emitted := scr.emitted ++ (Prog.emitted p.program scr.state).map (fun s => (p.source, s))
  sent := scr.sent ++ picture (Prog.settle p.program scr.state).1 }

def pick : SignupCall → Except AuthException (Option String) → List String
  | .pickImageFromGallery _, .ok file => file.toList
  | .pickImageFromGallery _, .error _ => []
  | .createUser _, _ => []

def step (scr : SignUpScreen) : SignupEvent → Option SignUpScreen
  | .chooseImage => some (scr.advance ⟨.chooseImage, SignupCubit.chooseImage⟩)
  | .createAccount valid form =>
      -- the button of a loading screen is a progress indicator
      if scr.state.isLoading then none
      else some (scr.advance ⟨.createAccount, SignupCubit.createAccount valid form⟩)
  | .answer i reply =>
      match scr.processes[i]? with
      | some ⟨source, .await op k⟩ =>
          some ({ scr with
            processes := scr.processes.eraseIdx i
            picked := scr.picked ++ pick op reply }.advance ⟨source, k reply⟩)
      | _ => none

def signUps (scr : SignUpScreen) : ℕ :=
  scr.processes.countP (fun p => p.source = .createAccount)

inductive Awaits : SignupProcess → Prop
  | pick : Awaits ⟨.chooseImage, SignupCubit.chooseImage⟩
  | register (form : SignUp) : Awaits ⟨.createAccount, register form⟩

def unsent (scr : SignUpScreen) : List (Option String) :=
  if scr.state.isLoading then [] else scr.state.imageFile.toList.map some

structure Sound (scr : SignUpScreen) : Prop where
  awaits : ∀ p ∈ scr.processes, Awaits p
  loading : scr.signUps = if scr.state.isLoading then 1 else 0
  message : scr.state.errorMessage.isSome = scr.state.isFailure
  pictures : (scr.sent ++ scr.unsent).Sublist (scr.picked.map some)

def shown (scr : SignUpScreen) : List String := scr.emitted.flatMap (fun e => e.2.shows)

def failed (scr : SignUpScreen) : List String :=
  (scr.emitted.filter (fun e => e.1 = .createAccount)).flatMap (fun e => e.2.shows)

/-- No choice of a picture ends, be it cancelled, while a failure is shown. -/
def PicksBefore (scr : SignUpScreen) : SignupEvent → Prop
  | .answer i (.ok _) =>
      match scr.processes[i]? with
      | some ⟨.chooseImage, .await _ _⟩ => scr.state.isFailure = false
      | _ => True
  | _ => True

variable {scr scr' : SignUpScreen} {e : SignupEvent}

inductive Does (scr : SignUpScreen) : SignupEvent → SignUpScreen → Prop
  | choose : Does scr .chooseImage
      { scr with processes := scr.processes ++ [⟨.chooseImage, SignupCubit.chooseImage⟩] }
  | refuse (valid : Option Bool) (form : SignUp) (idle : scr.state.isLoading = false) :
      Does scr (.createAccount valid form)
        { scr with
          state := ⟨.failure, some fillAllFields, scr.state.imageFile⟩
          emitted := scr.emitted ++
            [(.createAccount, ⟨.failure, some fillAllFields, scr.state.imageFile⟩)] }
  | start (valid : Option Bool) (form : SignUp) (file : String)
      (idle : scr.state.isLoading = false) (picture : scr.state.imageFile = some file) :
      Does scr (.createAccount valid form)
        { scr with
          state := ⟨.loading, none, some file⟩
          processes := scr.processes ++
            [⟨.createAccount, register { form with imageFile := some file }⟩]
          emitted := scr.emitted ++ [(.createAccount, ⟨.loading, none, some file⟩)]
          sent := scr.sent ++ [some file] }
  | pick (i : ℕ) (file : Option String)
      (h : scr.processes[i]? = some ⟨.chooseImage, SignupCubit.chooseImage⟩) :
      Does scr (.answer i (.ok file))
        { scr with
          state := ⟨scr.state.status, scr.state.errorMessage, file⟩
          processes := scr.processes.eraseIdx i
          emitted := scr.emitted ++
            [(.chooseImage, ⟨scr.state.status, scr.state.errorMessage, file⟩)]
          picked := scr.picked ++ file.toList }
  | noPick (i : ℕ) (exception : AuthException)
      (h : scr.processes[i]? = some ⟨.chooseImage, SignupCubit.chooseImage⟩) :
      Does scr (.answer i (.error exception))
        { scr with processes := scr.processes.eraseIdx i }
  | finish (i : ℕ) (reply : Except AuthException (Option String)) (form : SignUp)
      (state : SignupState) (h : scr.processes[i]? = some ⟨.createAccount, register form⟩)
      (idle : state.isLoading = false) (picture : state.imageFile = none)
      (message : state.errorMessage.isSome = state.isFailure) :
      Does scr (.answer i reply)
        { scr with
          state
          processes := scr.processes.eraseIdx i
          emitted := scr.emitted ++ [(.createAccount, state)] }

variable {source : SignupSource} {program : SignupM Unit} {state : SignupState}
  {es : List SignupState}

theorem advance_of_done (scr : SignUpScreen) {result : Except AuthException Unit}
    (hsettle : Prog.settle program scr.state = (.done result, state))
    (hemitted : Prog.emitted program scr.state = es) :
    scr.advance ⟨source, program⟩ =
      { scr with state, emitted := scr.emitted ++ es.map (fun s => (source, s)) } := by
  unfold advance
  dsimp only
  rw [hsettle, hemitted]
  simp only [picture, List.append_nil]

theorem advance_of_await (scr : SignUpScreen) {op : SignupCall}
    {k : Except AuthException (Option String) → SignupM Unit}
    (hsettle : Prog.settle program scr.state = (.await op k, state))
    (hemitted : Prog.emitted program scr.state = es) :
    scr.advance ⟨source, program⟩ =
      { scr with
        state
        processes := scr.processes ++ [⟨source, .await op k⟩]
        emitted := scr.emitted ++ es.map (fun s => (source, s))
        sent := scr.sent ++ picture (.await op k) } := by
  unfold advance
  dsimp only
  rw [hsettle, hemitted]

theorem does_createAccount (valid : Option Bool) (form : SignUp) (h : scr.state.isLoading = false) :
    Does scr (.createAccount valid form)
      (scr.advance ⟨.createAccount, createAccount valid form⟩) := by
  by_cases hrefused : valid = some false ∨ scr.state.imageFile = none
  · have hsettle : Prog.settle (createAccount valid form) scr.state =
        (.done (.ok ()), ⟨.failure, some fillAllFields, scr.state.imageFile⟩) := by
      change Prog.settle (if _ then _ else _) scr.state = _
      rw [if_pos hrefused]
      rfl
    have hemitted : Prog.emitted (createAccount valid form) scr.state =
        [⟨.failure, some fillAllFields, scr.state.imageFile⟩] := by
      change Prog.emitted (if _ then _ else _) scr.state = _
      rw [if_pos hrefused]
      rfl
    rw [advance_of_done scr hsettle hemitted]
    exact .refuse valid form h
  · obtain ⟨file, hfile⟩ := Option.ne_none_iff_exists'.mp (not_or.mp hrefused).2
    have hsettle : Prog.settle (createAccount valid form) scr.state =
        (SignupCubit.register { form with imageFile := scr.state.imageFile },
          ⟨.loading, none, scr.state.imageFile⟩) := by
      change Prog.settle (if _ then _ else _) scr.state = _
      rw [if_neg hrefused]
      rfl
    have hemitted : Prog.emitted (createAccount valid form) scr.state =
        [⟨.loading, none, scr.state.imageFile⟩] := by
      change Prog.emitted (if _ then _ else _) scr.state = _
      rw [if_neg hrefused]
      rfl
    rw [hfile] at hsettle hemitted
    rw [advance_of_await scr hsettle hemitted]
    exact .start valid form file h hfile

/-- A picture replaces the one before it, and nothing else. -/
theorem chooseImage_spec : ∃ k, SignupCubit.chooseImage = .await (.pickImageFromGallery 50) k ∧
    (∀ exception s, Prog.settle (k (.error exception)) s = (.done (.error exception), s) ∧
      Prog.emitted (k (.error exception)) s = []) ∧
    ∀ file s, Prog.settle (k (.ok file)) s = (.done (.ok ()), ⟨s.status, s.errorMessage, file⟩) ∧
      Prog.emitted (k (.ok file)) s = [⟨s.status, s.errorMessage, file⟩] :=
  ⟨_, rfl, fun _ _ => ⟨rfl, rfl⟩, fun _ _ => ⟨rfl, rfl⟩⟩

/-- A sign-up that ends leaves no picture, and a message if it has failed. -/
theorem register_spec (form : SignUp) (s : SignupState)
    (reply : Except AuthException (Option String)) :
    ∃ k state, SignupCubit.register form = .await (.createUser form) k ∧
      Prog.settle (k reply) s = (.done (.ok ()), state) ∧ Prog.emitted (k reply) s = [state] ∧
      state.isLoading = false ∧ state.imageFile = none ∧
      state.errorMessage.isSome = state.isFailure := by
  rcases reply with exception | _ | user
  · exact ⟨_, ⟨.failure, some (message exception), none⟩, rfl, rfl, rfl, rfl, rfl, rfl⟩
  · exact ⟨_, ⟨.failure, some signUpFailed, none⟩, rfl, rfl, rfl, rfl, rfl, rfl⟩
  · exact ⟨_, ⟨.success, none, none⟩, rfl, rfl, rfl, rfl, rfl, rfl⟩

theorem does_of_step (hawaits : ∀ p ∈ scr.processes, Awaits p) (h : step scr e = some scr') :
    Does scr e scr' := by
  cases e with
  | chooseImage =>
      cases h
      obtain ⟨k, hchoose, -⟩ := chooseImage_spec
      have hawait : SignUpScreen.advance scr ⟨.chooseImage, .await (.pickImageFromGallery 50) k⟩ =
          { scr with processes := scr.processes ++
            [⟨.chooseImage, .await (.pickImageFromGallery 50) k⟩] } := by
        simp only [advance, Prog.settle, Prog.emitted, picture, List.map_nil, List.append_nil]
      rw [hchoose, hawait, ← hchoose]
      exact .choose
  | createAccount valid form =>
      unfold step at h
      dsimp only at h
      split at h
      · cases h
      · next hidle =>
          cases h
          exact does_createAccount valid form (Bool.eq_false_iff.mpr hidle)
  | answer i reply =>
      unfold step at h
      dsimp only at h
      split at h
      · next source op k hprocess =>
          cases h
          generalize hp : (⟨source, .await op k⟩ : SignupProcess) = p at hprocess
          cases hawaits p (List.mem_of_getElem? hprocess) with
          | pick =>
              obtain ⟨k', hchoose, herror, hok⟩ := chooseImage_spec
              rw [hchoose] at hp
              cases hp
              rcases reply with exception | file
              · obtain ⟨hsettle, hemitted⟩ := herror exception scr.state
                rw [pick, List.append_nil, advance_of_done { scr with
                  processes := scr.processes.eraseIdx i } hsettle hemitted, List.map_nil,
                  List.append_nil]
                exact .noPick i exception (hchoose.symm ▸ hprocess)
              · obtain ⟨hsettle, hemitted⟩ := hok file scr.state
                rw [advance_of_done { scr with
                  processes := scr.processes.eraseIdx i
                  picked := scr.picked ++ pick (.pickImageFromGallery 50) (.ok file) }
                  hsettle hemitted]
                exact .pick i file (hchoose.symm ▸ hprocess)
          | register form =>
              obtain ⟨k', state, hregister, hsettle, hemitted, hidle, hpicture, hmessage⟩ :=
                register_spec form scr.state reply
              rw [hregister] at hp
              cases hp
              rw [pick, List.append_nil, advance_of_done { scr with
                processes := scr.processes.eraseIdx i } hsettle hemitted]
              exact .finish i reply form state (hregister.symm ▸ hprocess) hidle hpicture hmessage
      · cases h

theorem mem_processes_snoc {p : SignupProcess} (h : ∀ q ∈ scr.processes, Awaits q)
    (hp : Awaits p) : ∀ q ∈ scr.processes ++ [p], Awaits q := by
  intro q hq
  rcases List.mem_append.mp hq with hq | hq
  · exact h q hq
  · exact List.mem_singleton.mp hq ▸ hp

/-- The sign-ups under way without one of the calls. -/
theorem signUps_eraseIdx {i : ℕ} {p : SignupProcess} (h : scr.processes[i]? = some p) :
    scr.signUps = (scr.processes.eraseIdx i).countP (fun p => p.source = .createAccount) +
      if p.source = .createAccount then 1 else 0 := by
  obtain ⟨hi, rfl⟩ := List.getElem?_eq_some_iff.mp h
  have hperm := (List.getElem_cons_eraseIdx_perm hi).countP_eq
    (fun p : SignupProcess => decide (p.source = .createAccount))
  rw [signUps, ← hperm, List.countP_cons]
  simp only [decide_eq_true_eq]

theorem sound_does (h : Sound scr) (hdoes : Does scr e scr') : Sound scr' := by
  obtain ⟨hawaits, hloading, hmessage, hpictures⟩ := h
  cases hdoes with
  | choose =>
      refine ⟨mem_processes_snoc hawaits .pick, ?_, hmessage, hpictures⟩
      rw [← hloading]
      exact List.countP_append.trans (add_zero _)
  | refuse valid form hidle =>
      rw [if_neg (by simp [hidle])] at hloading
      refine ⟨hawaits, hloading, rfl, ?_⟩
      unfold unsent at hpictures ⊢
      rw [hidle] at hpictures
      exact hpictures
  | start valid form file hidle hfile =>
      rw [if_neg (by simp [hidle])] at hloading
      refine ⟨mem_processes_snoc hawaits (.register _), ?_, rfl, ?_⟩
      · exact List.countP_append.trans (congrArg (· + 1) hloading)
      · unfold unsent at hpictures
        rw [hidle, hfile] at hpictures
        exact (List.append_nil _).symm ▸ hpictures
  | pick i file hprocess =>
      have hcount := signUps_eraseIdx hprocess
      refine ⟨fun p hp => hawaits p (List.mem_of_mem_eraseIdx hp), ?_, hmessage, ?_⟩
      · exact hcount.symm.trans hloading
      · have hsent : scr.sent.Sublist (scr.picked.map some) :=
          (List.sublist_append_left _ _).trans hpictures
        unfold unsent
        dsimp only
        rw [List.map_append]
        refine hsent.append ?_
        split
        · exact List.nil_sublist _
        · exact List.Sublist.refl _
  | noPick i exception hprocess =>
      have hcount := signUps_eraseIdx hprocess
      exact ⟨fun p hp => hawaits p (List.mem_of_mem_eraseIdx hp), hcount.symm.trans hloading,
        hmessage, hpictures⟩
  | finish i reply form state hprocess hidle hpicture hmessage' =>
      have hcount := signUps_eraseIdx hprocess
      refine ⟨fun p hp => hawaits p (List.mem_of_mem_eraseIdx hp), ?_, hmessage', ?_⟩
      · have hle : scr.signUps ≤ 1 := hloading.trans_le (by split <;> omega)
        rw [if_pos rfl] at hcount
        have hzero :
            (scr.processes.eraseIdx i).countP (fun p => p.source = .createAccount) = 0 := by
          omega
        exact hzero.trans (if_neg (by simp [hidle])).symm
      · have hnone : SignUpScreen.unsent { scr with
            state
            processes := scr.processes.eraseIdx i
            emitted := scr.emitted ++ [(.createAccount, state)] } = [] := by
          unfold unsent
          simp only [hidle, hpicture, Bool.false_eq_true, if_false, Option.toList_none,
            List.map_nil]
        rw [hnone, List.append_nil]
        exact (List.sublist_append_left _ _).trans hpictures

theorem sound_step (h : Sound scr) (hstep : step scr e = some scr') : Sound scr' :=
  sound_does h (does_of_step h.awaits hstep)

theorem sound_start : Sound {} :=
  ⟨nofun, rfl, rfl, List.Sublist.refl _⟩

/-- In every run, the pictures sent with sign-ups are pictures that were picked one after the other,
none of them twice, and a sign-up is under way, but one only, while the screen is loading. -/
theorem pictures_sent_once (events : List SignupEvent) (scr : SignUpScreen)
    (hrun : Execution.run step {} events = some scr) :
    scr.sent.Sublist (scr.picked.map some) ∧
      scr.signUps = if scr.state.isLoading then 1 else 0 := by
  have hsound := (Execution.always_of_step (fun _ _ _ h hstep => sound_step h hstep) events
    sound_start).final hrun
  exact ⟨(List.sublist_append_left _ _).trans hsound.pictures, hsound.loading⟩

theorem shows_of_failure {s : SignupState} (h : s.errorMessage.isSome = s.isFailure) :
    s.shows = [] ↔ s.isFailure = false := by
  unfold SignupState.shows
  cases hfailure : s.isFailure with
  | false => exact iff_of_true rfl rfl
  | true =>
      rw [hfailure] at h
      obtain ⟨message, hmessage⟩ := Option.isSome_iff_exists.mp h
      simp [hmessage]

/-- An emission of a sign-up is shown with the failures, one of a pick is shown beside them. -/
theorem shown_eq_failed_snoc {emitted : List (SignupSource × SignupState)} {s : SignupState}
    (hsame : emitted.flatMap (fun e => e.2.shows) =
      (emitted.filter (fun e => e.1 = .createAccount)).flatMap (fun e => e.2.shows))
    (source : SignupSource) :
    (emitted ++ [(source, s)]).flatMap (fun e => e.2.shows) =
        ((emitted ++ [(source, s)]).filter (fun e => e.1 = .createAccount)).flatMap
          (fun e => e.2.shows) ↔
      (source = .chooseImage → s.shows = []) := by
  rw [List.filter_append, List.flatMap_append, List.flatMap_append, hsame,
    List.append_cancel_left_eq, List.flatMap_singleton]
  cases source with
  | chooseImage => exact ⟨fun h _ => h, fun h => h rfl⟩
  | createAccount => exact iff_of_true (List.append_nil _).symm nofun

theorem shown_does_iff (h : Sound scr) (hsame : scr.shown = scr.failed)
    (hdoes : Does scr e scr') : scr'.shown = scr'.failed ↔ PicksBefore scr e := by
  cases hdoes with
  | choose => exact iff_of_true hsame trivial
  | refuse valid form hidle =>
      exact (shown_eq_failed_snoc hsame .createAccount).trans (iff_of_true nofun trivial)
  | start valid form file hidle hfile =>
      exact (shown_eq_failed_snoc hsame .createAccount).trans (iff_of_true nofun trivial)
  | pick i file hprocess =>
      obtain ⟨k, hchoose, -⟩ := chooseImage_spec
      rw [hchoose] at hprocess
      refine (shown_eq_failed_snoc hsame .chooseImage).trans ?_
      simp only [PicksBefore, hprocess, true_implies]
      exact shows_of_failure h.message
  | noPick i exception hprocess => exact iff_of_true hsame trivial
  | finish i reply form state hprocess hidle hpicture hmessage =>
      refine (shown_eq_failed_snoc hsame .createAccount).trans (iff_of_true nofun ?_)
      unfold PicksBefore
      cases reply with
      | error exception => trivial
      | ok user =>
          dsimp only
          rw [hprocess]
          trivial

/-- Every failure is shown once, and nothing else is shown, exactly in the runs in which no choice
of a picture, cancelled ones included, ends while a failure is shown. -/
theorem shown_eq_failed_iff (events : List SignupEvent) :
    Execution.Always step (fun scr => scr.shown = scr.failed) {} events ↔
      Execution.StepsMeet step PicksBefore {} events := by
  refine Execution.always_iff_stepsMeet (fun _ _ _ h hstep => sound_step h hstep) ?_
    (fun _ _ _ h hsame hstep => shown_does_iff h hsame (does_of_step h.awaits hstep)) events rfl
    sound_start
  intro scr e hnone
  unfold PicksBefore
  cases e with
  | answer i reply =>
      cases reply with
      | error exception => trivial
      | ok file =>
          dsimp only
          split
          · next hprocess => simp [step, hprocess] at hnone
          · trivial
  | _ => trivial

def profile : SignUp := ⟨"ann@example.com", "secret", "Ann", "Lee", "Hue", "Vietnam", "Hello", none⟩

def secondTry : List SignupEvent :=
  [.chooseImage, .answer 0 (.ok (some "a.jpg")), .createAccount (some true) profile,
    .answer 0 (.error (.firebaseAuth "weak-password")), .chooseImage,
    .answer 0 (.ok (some "a.jpg")), .createAccount (some true) profile, .answer 0 (.ok (some "u1"))]

theorem pictures_sent_once_secondTry : ∃ scr, Execution.run step {} secondTry = some scr ∧
    scr.sent.Sublist (scr.picked.map some) ∧
      scr.signUps = if scr.state.isLoading then 1 else 0 := by
  obtain ⟨scr, hrun⟩ : ∃ scr, Execution.run step {} secondTry = some scr := ⟨_, rfl⟩
  exact ⟨scr, hrun, pictures_sent_once secondTry scr hrun⟩

end SignUpScreen

end AirBnbClone
