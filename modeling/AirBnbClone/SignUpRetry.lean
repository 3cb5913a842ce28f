import AirBnbClone.AuthRepository
import AirBnbClone.EncodingRoundTrip

/-!
# Signing up again after a failure

The account is created in one service and the profile is written to another. Every call may throw
before, halfway through or after its effect, and nothing that was done is undone. An account whose
sign-up was broken off is taken for good: its owner can neither sign up nor sign in.
-/

namespace AirBnbClone

open Async FirestoreMapper FireStoreService AuthRepository

namespace UserRepository

def createUser (z : Zone) (ids : AutoId) (id : String) (data : Doc) (w : World) :
    Except DartError User × World :=
  createAndRead z ids .user FirestoreCollection.user (some id) data
    "Failed to create user in local storage" w

end UserRepository

structure Account where
  password : String
  uid : String

structure Backend where
  accounts : DartMap Account
  world : World
  token : Option String

structure Services where
  zone : Zone
  ids : AutoId
  upload : String → String → Option String

inductive Fault
  | before
  | halfway
  | after
  deriving DecidableEq

namespace Backend

variable (services : Services)

/-- A call that goes through. An email can have one account only. -/
def perform : (op : AuthCall) → Backend → Except DartError (AuthReply op) × Backend
  | .createCredential email password, b =>
      match b.accounts.lookup email with
      | some _ => (.error (.exception "email-already-in-use"), b)
      | none =>
          let uid := services.ids.next (b.accounts.entries.map (fun account => account.2.uid))
          (.ok (some uid), { b with accounts := b.accounts.insert email ⟨password, uid⟩ })
  | .signInCredential email password, b =>
      match b.accounts.lookup email with
      | some account =>
          if account.password = password then (.ok (some account.uid), b)
          else (.error (.exception "wrong-password"), b)
      | none => (.error (.exception "user-not-found"), b)
  | .uploadImage file publicId, b => (.ok (services.upload file publicId), b)
  | .createUser id data, b =>
      let (result, world) := UserRepository.createUser services.zone services.ids id data b.world
      (result.map (fun _ => ()), { b with world := world })
  | .getUser id, b =>
      let (result, world) := UserRepository.getUser services.zone id b.world
      (result.map (fun _ => ()), { b with world := world })
  | .fetchToken, b => (.ok b.token, b)
  | .saveToken token, b => (.ok (), { b with token := token })
  | .removeToken, b => (.ok (), { b with token := none })
  | .signOut, b => (.ok (), b)
  | .removeAllListeners, b => (.ok (), b)
  | .deleteAll, b =>
      (.ok (), { b with world := { b.world with realm := RealmService.deleteAll b.world.realm } })

/-- Halfway through the write of a user the document is stored and its mirror is not. -/
def halfway : AuthCall → Backend → Backend
  | .createUser id data, b =>
      let doc := newDoc services.ids FirestoreCollection.user (some id) data b.world
      { b with world :=
        { b.world with remote := b.world.remote.set FirestoreCollection.user doc.1 doc.2 } }
  | _, b => b

/-- The services with the calls that throw, and how far each of them gets. -/
def serve (faults : AuthCall → Option Fault) (op : AuthCall) (b : Backend) :
    Except DartError (AuthReply op) × Backend :=
  match faults op with
  | none => perform services op b
  | some .before => (.error .unavailable, b)
  | some .halfway => (.error .unavailable, halfway services op b)
  | some .after => (.error .unavailable, (perform services op b).2)

def noFaults : AuthCall → Option Fault := fun _ => none

def document (b : Backend) (account : Account) : Option Doc :=
  b.world.remote.doc FirestoreCollection.user account.uid

/-- Whoever has an account can sign in with it. -/
def AllSignIn (b : Backend) : Prop :=
  ∀ email account cache, b.accounts.lookup email = some account →
    (Prog.exec (serve services noFaults) (AuthRepository.signIn email account.password) cache b).1 =
      .ok (some account.uid)

/-- What a failed sign-up should leave: no account of the email without a users document, a sign-up
with the same email that succeeds, and accounts that can be signed in with. -/
structure Retryable (email : String) (b : Backend) : Prop where
  documented : ∀ account, b.accounts.lookup email = some account → (b.document account).isSome
  signUp : ∀ form cache, form.email = email → ∃ id,
    (Prog.exec (serve services noFaults) (AuthRepository.createUser form) cache b).1 = .ok (some id)
  signIn : AllSignIn services b

/-- The account is refused before anything is done. -/
def RefusedAtOnce (faults : AuthCall → Option Fault) (form : SignUp) : Prop :=
  faults (.createCredential form.email form.password) = some .before ∨
    faults (.createCredential form.email form.password) = some .halfway

variable {services} {faults : AuthCall → Option Fault} {b : Backend} {form : SignUp}
  {cache : AuthCache} {email : String}

theorem perform_createCredential_taken {account : Account}
    (h : b.accounts.lookup email = some account) (password : String) :
    perform services (.createCredential email password) b =
      (.error (.exception "email-already-in-use"), b) := by
  simp only [perform, h]

/-- No call takes an account away. -/
theorem accounts_serve (op : AuthCall) (b : Backend) (h : (b.accounts.lookup email).isSome) :
    ((serve services faults op b).2.accounts.lookup email).isSome := by
  have hperform : ((perform services op b).2.accounts.lookup email).isSome := by
    cases op with
    | createCredential email' password =>
        cases hlookup : b.accounts.lookup email' with
        | some account =>
            rw [perform_createCredential_taken hlookup]
            exact h
        | none =>
            simp only [perform, hlookup, FiniteMap.lookup_insert_eq_ite]
            split_ifs
            · rfl
            · exact h
    | signInCredential email' password =>
        simp only [perform]
        split
        · split_ifs <;> exact h
        · exact h
    | _ =>
        simp only [perform]
        exact h
  unfold serve
  split
  · exact hperform
  · exact h
  · cases op <;> exact h
  · exact hperform

theorem accounts_exec {α : Type} (p : AuthM α) (h : (b.accounts.lookup email).isSome) :
    ((Prog.exec (serve services faults) p cache b).2.2.accounts.lookup email).isSome :=
  Prog.exec_rel (R := fun b b' : Backend => (b.accounts.lookup email).isSome →
    (b'.accounts.lookup email).isSome) (fun _ => id) (fun _ _ _ h₁ h₂ h => h₂ (h₁ h))
    (fun op b => accounts_serve op b) p cache b h

theorem exec_createUser_refused (h : RefusedAtOnce faults form) :
    Prog.exec (serve services faults) (AuthRepository.createUser form) cache b =
      (.error .unavailable, cache, b) := by
  have hserve : serve services faults (.createCredential form.email form.password) b =
      (.error .unavailable, b) := by
    obtain hf | hf := h <;> simp only [serve, hf, halfway]
  unfold AuthRepository.createUser
  rw [Prog.exec_call_bind_error (congrArg Prod.fst hserve), hserve]

/-- An account that is not refused at once is there afterwards, even if the call throws. -/
theorem accounts_createCredential (services : Services)
    (hfree : b.accounts.lookup form.email = none)
    (hrefused : ¬ RefusedAtOnce faults form) :
    ((serve services faults (.createCredential form.email form.password) b).2.accounts.lookup
      form.email).isSome := by
  have hperform : ((perform services (.createCredential form.email form.password)
      b).2.accounts.lookup form.email).isSome := by
    simp only [perform, hfree, AList.lookup_insert, Option.isSome_some]
  unfold serve
  split
  · exact hperform
  · rename_i hfault
    exact absurd (.inl hfault) hrefused
  · rename_i hfault
    exact absurd (.inr hfault) hrefused
  · exact hperform

/-- A sign-up either is refused with nothing done, or leaves an account of the email. -/
theorem account_or_refused (services : Services) (faults : AuthCall → Option Fault)
    (form : SignUp) (cache : AuthCache) (b : Backend) :
    (((Prog.exec (serve services faults) (AuthRepository.createUser form) cache
      b).2.2.accounts.lookup form.email).isSome) ∨
    (b.accounts.lookup form.email = none ∧ RefusedAtOnce faults form) := by
  cases hfree : b.accounts.lookup form.email with
  | some account =>
      left
      apply accounts_exec
      rw [hfree]
      rfl
  | none =>
      by_cases hrefused : RefusedAtOnce faults form
      · exact .inr ⟨rfl, hrefused⟩
      · left
        have hcreated := accounts_createCredential services hfree hrefused
        unfold AuthRepository.createUser
        rw [Prog.exec_bind, Prog.exec_call]
        cases (serve services faults (.createCredential form.email form.password) b).1 with
        | error e => exact hcreated
        | ok id => exact accounts_exec _ hcreated

/-- An email that is taken cannot be signed up with, whatever else goes well. -/
theorem signUp_taken (h : (b.accounts.lookup form.email).isSome) (id : String) :
    (Prog.exec (serve services noFaults) (AuthRepository.createUser form) cache b).1 ≠
      .ok (some id) := by
  obtain ⟨account, haccount⟩ := Option.isSome_iff_exists.mp h
  have hserve : serve services noFaults (.createCredential form.email form.password) b = _ :=
    perform_createCredential_taken haccount form.password
  unfold AuthRepository.createUser
  rw [Prog.exec_call_bind_error (congrArg Prod.fst hserve)]
  nofun

theorem wholeMilliseconds_user (u : User) : WholeMilliseconds .user u := by
  intro t ht
  cases u
  simp [properties] at ht

/-- The document of a new user is stored and read back. -/
theorem createUser_newUser (form : SignUp) (z : Zone) (ids : AutoId) {uid : String}
    (huid : uid ≠ "") (imageUrl : Option String) (w : World) :
    ∃ w', UserRepository.createUser z ids uid
      (UserFirestoreExtension.toFirestore (newUser form uid imageUrl)) w =
        (.ok (newUser form uid imageUrl), w') := by
  have hid : (UserFirestoreExtension.toFirestore (newUser form uid imageUrl)).get "id" =
      .string uid := by
    have hget : (convert IterationOrder.sorted .user (newUser form uid imageUrl)).get "id" =
        ((encodedFields IterationOrder.sorted .user (newUser form uid imageUrl)).lookup
          "id").join.getD .null :=
      get_convert "id"
    simp only [encodedFields, newUser, List.lookup_cons_self, Encode.id, huid, if_false] at hget
    exact hget
  have hdoc : newDoc ids FirestoreCollection.user (some uid)
      (UserFirestoreExtension.toFirestore (newUser form uid imageUrl)) w =
        (uid, UserFirestoreExtension.toFirestore (newUser form uid imageUrl)) := by
    simp [newDoc, huid, withId, hid, isNullOrEmpty]
  have hdecoded : fromMap z .user (convert IterationOrder.sorted .user
      (newUser form uid imageUrl)) = .ok (newUser form uid imageUrl) :=
    fromMap_convert (wholeMilliseconds_user _)
  rw [UserRepository.createUser, createAndRead_eq_ok (by rw [hdoc]; exact hdecoded)
    (by rw [hdoc]; rfl)]
  exact ⟨_, rfl⟩

theorem exec_uploadAvatar (services : Services) (file : Option String) (id : String)
    (cache : AuthCache) (b : Backend) :
    ∃ imageUrl, Prog.exec (serve services noFaults) (uploadAvatar file id) cache b =
      (.ok imageUrl, cache, b) := by
  cases file with
  | none => exact ⟨none, rfl⟩
  | some file => exact ⟨services.upload file (userAvatar ++ "_" ++ id), rfl⟩

/-- With a free email and no fault the sign-up succeeds. -/
theorem signUp_free (h : b.accounts.lookup form.email = none) :
    ∃ id, (Prog.exec (serve services noFaults) (AuthRepository.createUser form) cache b).1 =
      .ok (some id) := by
  set uid := services.ids.next (b.accounts.entries.map (fun account => account.2.uid))
  have hne : uid ≠ "" := services.ids.nonempty _
  set created : Backend :=
    { b with accounts := b.accounts.insert form.email ⟨form.password, uid⟩ } with hcreated
  have hcredential : serve services noFaults (.createCredential form.email form.password) b =
      (.ok (some uid), created) := by
    simp only [serve, noFaults, perform, h]
    rfl
  obtain ⟨imageUrl, hupload⟩ := exec_uploadAvatar services form.imageFile uid cache
    created
  obtain ⟨w', hstore⟩ := createUser_newUser form services.zone services.ids hne imageUrl
    created.world
  refine ⟨uid, ?_⟩
  unfold AuthRepository.createUser
  rw [Prog.exec_call_bind_ok hcredential]
  simp [Prog.exec_bind, hupload, serve, noFaults, perform, hstore, Except.map]

end Backend

open Backend

/-- What a failed sign-up leaves can be retried exactly if the email was free, its account was
refused at once, and everyone could sign in before. -/
theorem retryable_iff (services : Services) (faults : AuthCall → Option Fault) (form : SignUp)
    (cache cache' : AuthCache) (b b' : Backend) (err : DartError)
    (h : Prog.exec (serve services faults) (AuthRepository.createUser form) cache b =
      (.error err, cache', b')) :
    Retryable services form.email b' ↔
      b.accounts.lookup form.email = none ∧ RefusedAtOnce faults form ∧ AllSignIn services b := by
  have hcases := account_or_refused services faults form cache b
  rw [h] at hcases
  dsimp only at hcases
  constructor
  · intro hretry
    obtain htaken | ⟨hfree, hrefused⟩ := hcases
    · obtain ⟨id, hid⟩ := hretry.signUp form cache rfl
      exact absurd hid (signUp_taken htaken id)
    · rw [exec_createUser_refused hrefused] at h
      cases h
      exact ⟨hfree, hrefused, hretry.signIn⟩
  · rintro ⟨hfree, hrefused, hsignIn⟩
    rw [exec_createUser_refused hrefused] at h
    cases h
    constructor
    · intro account haccount
      rw [hfree] at haccount
      cases haccount
    · intro retry cache' hemail
      rw [← hemail] at hfree
      exact signUp_free hfree
    · exact hsignIn

def oneImageHost : Services where
  zone := Zone.utc
  ids := AutoId.longer
  upload _ _ := some "https://images/1"

def ann : SignUp :=
  ⟨"ann@mail.com", "secret", "Ann", "Lee", "Hanoi", "Vietnam", "", some "/tmp/ann.jpg"⟩

def noAccounts : Backend := ⟨∅, ⟨Firestore.empty, Realm.empty⟩, none⟩

def unreachable : AuthCall → Option Fault
  | .createCredential .. => some .before
  | _ => none

theorem retryable_iff_unreachable : Retryable oneImageHost "ann@mail.com" noAccounts := by
  have hthrows : Prog.exec (serve oneImageHost unreachable) (AuthRepository.createUser ann)
      ⟨none, none⟩ noAccounts = (.error .unavailable, ⟨none, none⟩, noAccounts) := rfl
  refine (retryable_iff _ _ _ _ _ _ _ _ hthrows).mpr ⟨rfl, .inl rfl, ?_⟩
  intro email account cache haccount
  cases haccount

def brokenUpload : AuthCall → Option Fault
  | .uploadImage .. => some .before
  | _ => none

/-- Ann is left with an account that has no document, and her email stays in use. -/
theorem brokenUpload_is_not_retryable : ∃ err cache b,
    Prog.exec (serve oneImageHost brokenUpload) (AuthRepository.createUser ann) ⟨none, none⟩
      noAccounts = (.error err, cache, b) ∧ ¬ Retryable oneImageHost ann.email b := by
  refine ⟨_, _, _, rfl, fun hretry => ?_⟩
  obtain ⟨id, hid⟩ := hretry.signUp ann ⟨none, none⟩ rfl
  exact signUp_taken rfl id hid

end AirBnbClone
