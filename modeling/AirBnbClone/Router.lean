import AirBnbClone.AccountCubit
import AirBnbClone.GoRouter

/-!
# The routes of the app

`_redirect` sends whoever is not signed in to the log-in screen and whoever is away from it.
Wherever one goes, at most one answer leads to a page that one may see.
-/

namespace AirBnbClone

namespace RouteConstant

def logIn : String := "log_in"
def logInPath : String := "/" ++ logIn
def signUp : String := "sign_up"
def nonAuthPaths : List String := [logInPath ++ "/" ++ signUp]

def saved : String := "saved"
def savedPath : String := "/" ++ saved
def trips : String := "trips"
def tripsPath : String := "/" ++ trips
def inbox : String := "inbox"
def inboxPath : String := "/" ++ inbox
def chat : String := "chat"
def account : String := "account"
def accountPath : String := "/" ++ account

def viewPosting : String := "view_posting"
def bookPosting : String := "book_posting"
def viewReview : String := "view_review"
def viewProfile : String := "view_profile"

def myPostings : String := "myPostings"
def myPostingsPath : String := "/" ++ myPostings
def hostInbox : String := "host_inbox"
def hostInboxPath : String := "/" ++ hostInbox
def earnings : String := "earnings"
def earningsPath : String := "/" ++ earnings
def hostAccount : String := "host_account"
def hostAccountPath : String := "/" ++ hostAccount

def updatePosting : String := "update_posting"
def searchPropertyLocation : String := "search_property_location"

end RouteConstant

inductive Screen
  | logIn
  | signUp
  | explore
  | viewPosting
  | bookPosting
  | viewReview
  | viewProfile
  | saved
  | trips
  | inbox
  | chat
  | account (isInHostMode : Bool)
  | bookings
  | myPostings
  | updatePosting
  | searchPropertyLocation
  | earnings
  deriving DecidableEq

inductive HomeScreen
  | guest
  | host
  deriving DecidableEq

abbrev RouteBase := GoRouter.RouteBase Screen HomeScreen

abbrev Location := GoRouter.Location Screen HomeScreen

open GoRouter.RouteBase RouteConstant

/-- `_route`: the tag is both the path and the name. -/
def route (tag : String) (screen : Screen) (routes : List RouteBase) : RouteBase :=
  .goRoute tag (some tag) screen routes

def router : List RouteBase :=
  [.goRoute logInPath none .logIn [route signUp .signUp []],
    .shellRoute .guest
      [.goRoute explorePath (some explorePath) .explore
        [route viewPosting .viewPosting
          [route bookPosting .bookPosting [],
            route viewReview .viewReview [],
            route viewProfile .viewProfile []]],
        .goRoute savedPath (some saved) .saved [],
        .goRoute tripsPath (some trips) .trips [],
        .goRoute inboxPath (some inbox) .inbox [route chat .chat []],
        .goRoute accountPath (some account) (.account false) []],
    .shellRoute .host
      [.goRoute bookingsPath (some bookings) .bookings [],
        .goRoute myPostingsPath (some myPostings) .myPostings
          [route updatePosting .updatePosting
            [route searchPropertyLocation .searchPropertyLocation []]],
        .goRoute hostInboxPath (some hostInbox) .inbox [],
        .goRoute earningsPath (some earnings) .earnings [],
        .goRoute hostAccountPath (some hostAccount) (.account true) []]]

namespace Router

def table : List Location := locationsOf none none router

def find (location : String) : Option Location :=
  table.find? (fun l => l.fullPath = location)

def named (name : String) : Option String :=
  (table.find? (fun l => l.name = some name)).map GoRouter.Location.fullPath

theorem plain_of_mem_table : ∀ l ∈ table, GoRouter.Plain l.fullPath := by
  decide +kernel

/-- `_redirect`, with the answer of the repository. -/
def redirect (loggedIn : Bool) (matchedLocation : String) : Option String :=
  let loggingIn := matchedLocation = logInPath
  if !loggedIn then
    if matchedLocation ∈ nonAuthPaths then none else some logInPath
  else if loggingIn then some explorePath
  else none

/-- Whoever is signed in may see every page but the log-in screen, and nobody else may see any page
but the log-in and the sign-up screen. -/
def Allowed (loggedIn : Bool) (location : String) : Prop :=
  loggedIn = true ∧ location ≠ logInPath ∨
    loggedIn = false ∧ (location = logInPath ∨ location ∈ nonAuthPaths)

instance (loggedIn : Bool) (location : String) : Decidable (Allowed loggedIn location) :=
  inferInstanceAs (Decidable (_ ∧ _ ∨ _))

variable {loggedIn : Bool} {location : String}

theorem allowed_iff (loggedIn : Bool) (location : String) : Allowed loggedIn location ↔
    redirect loggedIn location = none ∨ redirect loggedIn location = some location := by
  have hexplore : explorePath ≠ logInPath := by decide
  unfold Allowed redirect
  cases loggedIn with
  | true =>
      by_cases h : location = logInPath
      · simp [h, hexplore]
      · simp [h]
  | false =>
      by_cases h : location ∈ nonAuthPaths
      · simp [h]
      · simp [h, eq_comm]

/-- Where somebody is sent, the redirection has no more to say. -/
theorem allowed_of_redirect {target : String} (h : redirect loggedIn location = some target) :
    Allowed loggedIn target := by
  unfold redirect at h
  cases loggedIn with
  | true =>
      by_cases hlogIn : location = logInPath
      · simp only [hlogIn, Bool.not_true, Bool.false_eq_true, if_false, if_true,
          Option.some.injEq] at h
        exact h ▸ .inl ⟨rfl, by decide⟩
      · simp [hlogIn] at h
  | false =>
      by_cases hnonAuth : location ∈ nonAuthPaths
      · simp [hnonAuth] at h
      · simp only [hnonAuth, Bool.not_false, if_true, if_false, Option.some.injEq] at h
        exact h ▸ .inr ⟨rfl, .inl rfl⟩

open GoRouter (Redirects)

theorem redirects_of_allowed (h : Allowed loggedIn location) :
    Redirects (redirect loggedIn) 0 location location :=
  .stay ((allowed_iff loggedIn location).mp h)

/-- One answer is enough to lead anybody from any location to an allowed one. -/
theorem exists_redirects (loggedIn : Bool) (location : String) :
    ∃ n target, n ≤ 1 ∧ Redirects (redirect loggedIn) n location target ∧
      Allowed loggedIn target := by
  by_cases hallowed : Allowed loggedIn location
  · exact ⟨0, location, Nat.zero_le 1, redirects_of_allowed hallowed, hallowed⟩
  · cases hredirect : redirect loggedIn location with
    | none => exact absurd ((allowed_iff loggedIn location).mpr (.inl hredirect)) hallowed
    | some target =>
        have htarget := allowed_of_redirect hredirect
        have hne : target ≠ location := fun h => hallowed (h ▸ htarget)
        exact ⟨1, target, le_rfl, .follow hredirect hne (redirects_of_allowed htarget), htarget⟩

end Router

end AirBnbClone
