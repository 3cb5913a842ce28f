import AirBnbClone.Execution
import AirBnbClone.Router

/-!
# Navigation

A page is a location with the extra it was pushed with, which the builder of its route casts. The
screens push and leave pages, signing in and out sends the user elsewhere; what a call of the router
makes of the pages is left to the package. Whatever is tapped, every page has a route and an extra
of its type, except for a conversation that is tapped in the host's inbox: its chat is pushed under
a path that no route has.
-/

namespace AirBnbClone

open RouteConstant

inductive Datum
  | posting
  | user
  | dates
  | string (s : String)
  | bool (b : Bool)

inductive Extra
  | posting
  | conversation
  | map (entries : List (String × Datum))

namespace Datum

def isPosting : Option Datum → Bool
  | some .posting => true
  | _ => false

def isUser : Option Datum → Bool
  | some .user => true
  | _ => false

def isDates : Option Datum → Bool
  | some .dates => true
  | _ => false

def isString : Option Datum → Bool
  | some (.string _) => true
  | _ => false

def isBool : Option Datum → Bool
  | some (.bool _) => true
  | _ => false

end Datum

open Datum

/-- The casts of a route's builder, and of the constructor of the cubit that it creates, succeed. -/
def Screen.casts : Screen → Option Extra → Bool
  | .viewPosting, extra => match extra with
      | some .posting => true
      | _ => false
  | .bookPosting, extra => match extra with
      | some (.map m) => ((m.lookup "posting").isNone || isPosting (m.lookup "posting")) &&
          ((m.lookup "name").isNone || isString (m.lookup "name")) &&
          ((m.lookup "dates").isNone || isDates (m.lookup "dates"))
      | _ => false
  | .viewReview, extra => match extra with
      | some (.map m) => isString (m.lookup "targetType") && isString (m.lookup "targetId")
      | _ => false
  | .viewProfile, extra => match extra with
      | some (.map m) => isUser (m.lookup "host") &&
          ((m.lookup "canReview").isNone || isBool (m.lookup "canReview"))
      | _ => false
  | .chat, extra => match extra with
      | none => true
      | some .conversation => true
      | _ => false
  | .updatePosting, extra => match extra with
      | none => true
      | some .posting => true
      | _ => false
  | _, _ => true

/-- The screens of those who are not signed in. -/
def Screen.isAuth (screen : Screen) : Bool := screen ∈ [.logIn, .signUp]

/-- What a screen asks of the router. -/
inductive RouterCall
  | go (location : String)
  | goNamed (name : String)
  | push (location : String) (extra : Option Extra)
  | pushNamed (name : String) (extra : Option Extra)
  | pop

namespace LogInScreen

def goToSignUpScreen : RouterCall := .pushNamed signUp none

end LogInScreen

/-- The function that `ExploreScreen`, `SavedScreen` and `TripsScreen` share. -/
def navigateToViewPostingPage : RouterCall := .pushNamed viewPosting (some .posting)

namespace ViewPostingScreen

def navigateToBookPosting (name : String) : RouterCall :=
  .pushNamed bookPosting
    (some (.map [("name", .string name), ("dates", .dates), ("posting", .posting)]))

def navigateToViewReview (postingId : String) : RouterCall :=
  .pushNamed viewReview
    (some (.map [("targetType", .string "posting"), ("targetId", .string postingId)]))

def navigateToViewProfile (canReview : Bool) : RouterCall :=
  .pushNamed viewProfile (some (.map [("host", .user), ("canReview", .bool canReview)]))

end ViewPostingScreen

namespace ViewProfileScreen

def navigateToViewReview (hostId : String) : RouterCall :=
  .pushNamed viewReview
    (some (.map [("targetType", .string "user"), ("targetId", .string hostId)]))

end ViewProfileScreen

namespace InboxScreen

def navigateInboxToChat (location : String) : RouterCall :=
  let base := if hostInbox.toList <:+: location.toList then hostInboxPath else inboxPath
  .push (base ++ "/" ++ chat) (some .conversation)

end InboxScreen

namespace MyPostingsPage

def goToUpdatePostingScreen (posting : Option Extra) : RouterCall :=
  .pushNamed updatePosting posting

end MyPostingsPage

namespace UpdatePostingScreen

def pushToSearchPropertyLocationScreen : RouterCall := .pushNamed searchPropertyLocation none

end UpdatePostingScreen

namespace HomeScreen

/-- The paths `_mainRoutes`, and the names `_routes` of the same pages. -/
def mainRoutes : HomeScreen → List (String × String)
  | .guest => [(explorePath, explorePath), (savedPath, saved), (tripsPath, trips),
      (inboxPath, inbox), (accountPath, account)]
  | .host => [(bookingsPath, bookings), (myPostingsPath, myPostings), (hostInboxPath, hostInbox),
      (earningsPath, earnings), (hostAccountPath, hostAccount)]

/-- A tap on the navigation bar, which is there on the main routes only. -/
def onTap (home : HomeScreen) (topRoute : String) (index : ℕ) : Option RouterCall :=
  if topRoute ∈ home.mainRoutes.map Prod.fst then
    (home.mainRoutes[index]?).map (fun r => .goNamed r.2)
  else none

end HomeScreen

inductive Location.Tap
  | signUp
  | posting
  | bookNow (name : String)
  | reviews (targetId : String)
  | host (canReview : Bool)
  | conversation
  | createListing
  | editListing
  | address
  | hostMode (isHost : Bool)
  | tab (index : ℕ)

def Location.onTap (l : Location) : Location.Tap → Option RouterCall
  | .signUp => if l.screen = .logIn then some LogInScreen.goToSignUpScreen else none
  | .posting =>
      if l.screen ∈ [.explore, .saved, .trips] then some navigateToViewPostingPage else none
  | .bookNow name =>
      if l.screen = .viewPosting then some (ViewPostingScreen.navigateToBookPosting name) else none
  | .reviews targetId =>
      if l.screen = .viewPosting then some (ViewPostingScreen.navigateToViewReview targetId)
      else if l.screen = .viewProfile ∧ targetId ≠ "" then
        some (ViewProfileScreen.navigateToViewReview targetId)
      else none
  | .host canReview =>
      if l.screen = .viewPosting then some (ViewPostingScreen.navigateToViewProfile canReview)
      else none
  | .conversation =>
      if l.screen = .inbox then some (InboxScreen.navigateInboxToChat l.fullPath) else none
  | .createListing =>
      if l.screen = .myPostings then some (MyPostingsPage.goToUpdatePostingScreen none) else none
  | .editListing =>
      if l.screen = .myPostings then
        some (MyPostingsPage.goToUpdatePostingScreen (some .posting))
      else none
  | .address =>
      if l.screen = .updatePosting then some UpdatePostingScreen.pushToSearchPropertyLocationScreen
      else none
  | .hostMode isHost =>
      if l.screen ∈ [.account false, .account true] then
        some (.go (if isHost then bookingsPath else explorePath))
      else none
  | .tab index => l.home.bind (fun home => home.onTap l.path index)

abbrev Page := GoRouter.Page Extra

abbrev AppRouter (σ : Type) := GoRouter.Router Screen HomeScreen Bool Extra σ

structure Navigator (σ : Type) where
  loggedIn : Bool
  state : σ

inductive NavigatorEvent
  | tap (t : Location.Tap)
  | back
  /-- A posting or a booking is saved, or a place is chosen, and the page on top is popped. -/
  | done
  /-- The repository has notified the router of a sign-in or a sign-out. -/
  | authenticated (loggedIn : Bool)

namespace Navigator

variable {σ : Type} (r : AppRouter σ)

/-- What a call makes of the router's state. -/
def routed (nav : Navigator σ) : RouterCall → Option σ
  | .go location => r.go nav.loggedIn nav.state location
  | .goNamed name => (r.namedLocation name).bind (r.go nav.loggedIn nav.state)
  | .push location extra => r.push nav.loggedIn nav.state location extra
  | .pushNamed name extra =>
      (r.namedLocation name).bind (fun location => r.push nav.loggedIn nav.state location extra)
  | .pop => r.pop nav.state

def call (nav : Navigator σ) (c : RouterCall) : Option (Navigator σ) :=
  (nav.routed r c).map (fun state => { nav with state })

/-- The page is one of those that pop when they are done. -/
def pops (page : Page) : Bool :=
  (r.matched page.location).any
    (fun l => l.screen ∈ [.updatePosting, .searchPropertyLocation, .bookPosting])

def step (nav : Navigator σ) : NavigatorEvent → Option (Navigator σ)
  | .tap t => (r.pages nav.state).head?.bind (fun page =>
      (r.matched page.location).bind (fun l => (Location.onTap l t).bind (nav.call r)))
  | .back => if (r.pages nav.state).dropLast = [] then none else nav.call r .pop
  | .done => if (r.pages nav.state).dropLast.any (pops r) then nav.call r .pop else none
  | .authenticated loggedIn => (r.refresh loggedIn nav.state).map (⟨loggedIn, ·⟩)

def opened (loggedIn : Bool) : Option (Navigator σ) :=
  (r.opened loggedIn explorePath).map (⟨loggedIn, ·⟩)

/-- The page has a route whose casts succeed, and it is one for users who are signed in, or for
those who are not. -/
def Shown (loggedIn : Bool) (page : Page) : Prop :=
  ∃ l, r.matched page.location = some l ∧ l.screen.casts page.extra = true ∧
    (loggedIn = false ↔ l.screen.isAuth = true)

def AllShown (nav : Navigator σ) : Prop := ∀ page ∈ r.pages nav.state, Shown r nav.loggedIn page

def NoHostChat (nav : Navigator σ) (e : NavigatorEvent) : Prop :=
  e = .tap .conversation → ∀ page ∈ (r.pages nav.state).head?, page.location ≠ hostInboxPath

section Registered

variable {loggedIn : Bool} {location : String} {extra : Option Extra} {page : Page} {l : Location}

/-- The page is at the full path of a route, and shown there. -/
def Registered (loggedIn : Bool) (page : Page) : Prop :=
  GoRouter.Plain page.location ∧ ∃ l, Router.find page.location = some l ∧
    l.screen.casts page.extra = true ∧ (loggedIn = false ↔ l.screen.isAuth = true)

instance (loggedIn : Bool) (page : Page) : Decidable (Registered loggedIn page) :=
  have : Decidable (∃ l, Router.find page.location = some l ∧
      l.screen.casts page.extra = true ∧ (loggedIn = false ↔ l.screen.isAuth = true)) :=
    match Router.find page.location with
    | none => .isFalse (fun ⟨_, hl, _⟩ => nomatch hl)
    | some l => decidable_of_iff
        (l.screen.casts page.extra = true ∧ (loggedIn = false ↔ l.screen.isAuth = true))
        ⟨fun hl => ⟨l, rfl, hl⟩, fun ⟨_, hl, hrest⟩ => Option.some.inj hl ▸ hrest⟩
  inferInstanceAs (Decidable (_ ∧ _))

def bases : List String :=
  logInPath :: (HomeScreen.guest.mainRoutes ++ HomeScreen.host.mainRoutes).map Prod.fst

/-- A location that is gone to, with a page for the user. -/
def Base (loggedIn : Bool) (location : String) : Prop :=
  location ∈ bases ∧ Registered loggedIn ⟨location, none⟩

instance (loggedIn : Bool) (location : String) : Decidable (Base loggedIn location) :=
  inferInstanceAs (Decidable (_ ∧ _))

theorem mem_table_of_find (h : Router.find location = some l) :
    l ∈ Router.table ∧ l.fullPath = location := by
  have hpath := List.find?_some h
  exact ⟨List.mem_of_find?_eq_some h, of_decide_eq_true hpath⟩

theorem isAuth_iff_of_mem : ∀ l ∈ Router.table,
    (l.screen.isAuth = true ↔ l.fullPath = logInPath ∨ l.fullPath ∈ nonAuthPaths) := by
  decide +kernel

/-- A page for those who see it is one to which they are not redirected. -/
theorem Registered.allowed (h : Registered loggedIn page) :
    Router.Allowed loggedIn page.location := by
  obtain ⟨-, l, hfind, -, hauth⟩ := h
  obtain ⟨hmem, hpath⟩ := mem_table_of_find hfind
  have hiff := isAuth_iff_of_mem l hmem
  rw [hpath] at hiff
  unfold Router.Allowed
  cases loggedIn with
  | true =>
      refine .inl ⟨rfl, fun hlogIn => ?_⟩
      exact Bool.noConfusion (hauth.mpr (hiff.mpr (.inl hlogIn)))
  | false => exact .inr ⟨rfl, hiff.mp (hauth.mp rfl)⟩

theorem topLevel_of_mem_bases : ∀ location ∈ bases,
    ∃ l ∈ Router.table, l.fullPath = location ∧ l.path = location := by
  decide +kernel

/-- The redirection leads from a main page to one for the user. -/
theorem exists_redirects_of_mem_bases (loggedIn : Bool) (h : location ∈ bases) :
    ∃ n target, n ≤ GoRouter.redirectLimit ∧
      GoRouter.Redirects (Router.redirect loggedIn) n location target ∧ Base loggedIn target := by
  have hall : ∀ location ∈ bases, Base loggedIn location ∨ ∃ target ∈ bases,
      Router.redirect loggedIn location = some target ∧ target ≠ location ∧
        Base loggedIn target := by
    cases loggedIn <;> decide +kernel
  rcases hall location h with hbase | ⟨target, -, hredirect, hne, hbase⟩
  · exact ⟨0, location, Nat.zero_le _, Router.redirects_of_allowed hbase.2.allowed, hbase⟩
  · exact ⟨1, target, by decide,
      .follow hredirect hne (Router.redirects_of_allowed hbase.2.allowed), hbase⟩

/-- The call leads to a page that is there for the user. -/
def Leads (loggedIn : Bool) : RouterCall → Prop
  | .go location => Base loggedIn location
  | .goNamed name => ∃ location, Router.named name = some location ∧ Base loggedIn location
  | .push location extra => Registered loggedIn ⟨location, extra⟩
  | .pushNamed name extra => ∃ location, Router.named name = some location ∧
      Registered loggedIn ⟨location, extra⟩
  | .pop => False

/-- What the navigation bars lead to. -/
theorem leads_tab {home : HomeScreen} {topRoute : String} {index : ℕ} {c : RouterCall}
    (h : home.onTap topRoute index = some c) : Leads true c := by
  have hall : ∀ r ∈ home.mainRoutes, Router.named r.2 = some r.1 ∧ Base true r.1 := by
    cases home <;> decide +kernel
  unfold HomeScreen.onTap at h
  split at h
  · obtain ⟨r, hr, rfl⟩ := Option.map_eq_some_iff.mp h
    exact ⟨r.1, hall r (List.mem_of_getElem? hr)⟩
  · cases h

/-- A page that is only for users who are signed in. -/
theorem eq_true_of_isAuth {screen : Screen} (hauth : loggedIn = false ↔ l.screen.isAuth = true)
    (hl : l.screen = screen) (hscreen : screen.isAuth = false) : loggedIn = true := by
  cases loggedIn with
  | true => rfl
  | false => exact absurd (hauth.mp rfl) (by rw [hl, hscreen]; decide)

theorem fullPath_of_inbox : ∀ l ∈ Router.table, l.screen = .inbox →
    l.fullPath = inboxPath ∨ l.fullPath = hostInboxPath := by
  decide +kernel

theorem isAuth_of_home : ∀ l ∈ Router.table, l.home ≠ none → l.screen.isAuth = false := by
  decide +kernel

theorem leads_pushNamed {name : String} (screen : Screen)
    (hroute : ((Router.named name).bind Router.find).map GoRouter.Location.screen = some screen)
    (hcasts : screen.casts extra = true) (hauth : screen.isAuth = false) :
    Leads true (.pushNamed name extra) := by
  obtain ⟨l, hl, rfl⟩ := Option.map_eq_some_iff.mp hroute
  obtain ⟨location, hname, hfind⟩ := Option.bind_eq_some_iff.mp hl
  obtain ⟨hmem, hpath⟩ := mem_table_of_find hfind
  exact ⟨location, hname, hpath ▸ Router.plain_of_mem_table l hmem, l, hfind, hcasts,
    by rw [hauth]; decide⟩

/-- A tap that only one screen offers, which is for users who are signed in. -/
theorem leads_of_tap {screen : Screen} {call c : RouterCall}
    (hauth : loggedIn = false ↔ l.screen.isAuth = true) (hscreen : screen.isAuth = false)
    (hcall : Leads true call) (h : (if l.screen = screen then some call else none) = some c) :
    Leads loggedIn c := by
  simp only [Option.ite_none_right_eq_some, Option.some.injEq] at h
  obtain ⟨hl, rfl⟩ := h
  exact eq_true_of_isAuth hauth hl hscreen ▸ hcall

/-- What a page leads to, unless it is the host's inbox and a conversation is tapped. -/
theorem leads_onTap {t : Location.Tap} {c : RouterCall} (hmem : l ∈ Router.table)
    (hauth : loggedIn = false ↔ l.screen.isAuth = true) (h : l.onTap t = some c)
    (hchat : t = .conversation → l.fullPath ≠ hostInboxPath) : Leads loggedIn c := by
  cases t with
  | signUp =>
      simp only [Location.onTap, Option.ite_none_right_eq_some, Option.some.injEq] at h
      obtain ⟨hl, rfl⟩ := h
      have hout : loggedIn = false := hauth.mpr (hl ▸ rfl)
      exact hout ▸ ⟨logInPath ++ "/" ++ signUp, by decide +kernel, by decide +kernel⟩
  | posting =>
      simp only [Location.onTap, Option.ite_none_right_eq_some, Option.some.injEq,
        List.mem_cons, List.not_mem_nil, or_false] at h
      obtain ⟨hl, rfl⟩ := h
      have hin : loggedIn = true := by
        rcases hl with hl | hl | hl <;> exact eq_true_of_isAuth hauth hl rfl
      exact hin ▸ leads_pushNamed .viewPosting (by decide +kernel) rfl rfl
  | bookNow name =>
      exact leads_of_tap hauth rfl (leads_pushNamed .bookPosting (by decide +kernel) rfl rfl) h
  | reviews targetId =>
      simp only [Location.onTap] at h
      split at h
      · next hl =>
          obtain rfl := Option.some.inj h
          exact eq_true_of_isAuth hauth hl rfl ▸
            leads_pushNamed .viewReview (by decide +kernel) rfl rfl
      · simp only [Option.ite_none_right_eq_some, Option.some.injEq] at h
        obtain ⟨hl, rfl⟩ := h
        exact eq_true_of_isAuth hauth hl.1 rfl ▸
          leads_pushNamed .viewReview (by decide +kernel) rfl rfl
  | host canReview =>
      exact leads_of_tap hauth rfl (leads_pushNamed .viewProfile (by decide +kernel) rfl rfl) h
  | conversation =>
      simp only [Location.onTap, Option.ite_none_right_eq_some, Option.some.injEq] at h
      obtain ⟨hl, rfl⟩ := h
      have hguest := (fullPath_of_inbox l hmem hl).resolve_right (hchat rfl)
      rw [hguest]
      have hpush : Leads true (InboxScreen.navigateInboxToChat inboxPath) := by
        have hchatShown : Registered true ⟨inboxPath ++ "/" ++ chat, some .conversation⟩ := by
          decide +kernel
        exact hchatShown
      exact eq_true_of_isAuth hauth hl rfl ▸ hpush
  | createListing =>
      exact leads_of_tap hauth rfl (leads_pushNamed .updatePosting (by decide +kernel) rfl rfl) h
  | editListing =>
      exact leads_of_tap hauth rfl (leads_pushNamed .updatePosting (by decide +kernel) rfl rfl) h
  | address =>
      exact leads_of_tap hauth rfl
        (leads_pushNamed .searchPropertyLocation (by decide +kernel) rfl rfl) h
  | hostMode isHost =>
      simp only [Location.onTap, Option.ite_none_right_eq_some, Option.some.injEq,
        List.mem_cons, List.not_mem_nil, or_false] at h
      obtain ⟨hl, rfl⟩ := h
      have hin : loggedIn = true := by
        rcases hl with hl | hl <;> exact eq_true_of_isAuth hauth hl rfl
      have hgo : Leads true (.go (if isHost then bookingsPath else explorePath)) := by
        have hbookings : Base true bookingsPath := by decide +kernel
        have hexplore : Base true explorePath := by decide +kernel
        cases isHost
        · exact hexplore
        · exact hbookings
      exact hin ▸ hgo
  | tab index =>
      obtain ⟨home, hhome, htab⟩ := Option.bind_eq_some_iff.mp h
      have hin := eq_true_of_isAuth hauth rfl
        (isAuth_of_home l hmem (by rw [hhome]; exact Option.some_ne_none home))
      exact hin ▸ leads_tab htab

end Registered

section Runs

variable {r} {nav nav' : Navigator σ} {loggedIn : Bool} {location : String}
  {extra : Option Extra} {page : Page}

/-- The user is at one of the main pages, and every page over it is there for the user. -/
structure WellRouted (r : AppRouter σ) (nav : Navigator σ) : Prop where
  base : r.location nav.state ∈ bases
  bottom : (r.pages nav.state).getLast? = some ⟨r.location nav.state, none⟩
  registered : ∀ page ∈ r.pages nav.state, Registered nav.loggedIn page

variable (hr : GoRouter.Documented r router Router.redirect)

include hr

theorem matched_eq (h : GoRouter.Plain location) : r.matched location = Router.find location :=
  hr.matched_eq Router.plain_of_mem_table location h

theorem namedLocation_eq (name : String) : r.namedLocation name = Router.named name :=
  hr.namedLocation_eq name

theorem Registered.shown (h : Registered loggedIn page) : Shown r loggedIn page := by
  obtain ⟨hplain, hrest⟩ := h
  rw [Shown, matched_eq hr hplain]
  exact hrest

theorem WellRouted.allShown (h : WellRouted r nav) : AllShown r nav :=
  fun page hpage => (h.registered page hpage).shown hr

theorem wellRouted_go {s : σ} (hbase : Base nav.loggedIn location)
    (hgo : r.go nav.loggedIn nav.state location = some s) :
    WellRouted r { nav with state := s } := by
  obtain ⟨s', hs', hlocation, hpages⟩ := hr.go_spec nav.state
    (Router.redirects_of_allowed hbase.2.allowed) (Nat.zero_le _)
    (topLevel_of_mem_bases location hbase.1)
  obtain rfl : s = s' := Option.some.inj (hgo.symm.trans hs')
  exact {
    base := hlocation ▸ hbase.1
    bottom := by
      rw [hlocation, hpages]
      rfl
    registered := fun page hpage => by
      rw [hpages, List.mem_singleton] at hpage
      exact hpage ▸ hbase.2 }

theorem wellRouted_push {s : σ} (h : WellRouted r nav)
    (hregistered : Registered nav.loggedIn ⟨location, extra⟩)
    (hpush : r.push nav.loggedIn nav.state location extra = some s) :
    WellRouted r { nav with state := s } := by
  obtain ⟨s', extra', hs', hlocation, hpages, hextra⟩ := hr.push_spec nav.state extra
    (Router.redirects_of_allowed hregistered.allowed) (Nat.zero_le _)
  obtain rfl : s = s' := Option.some.inj (hpush.symm.trans hs')
  obtain rfl := hextra rfl
  exact {
    base := hlocation ▸ h.base
    bottom := by
      rw [hlocation, hpages, List.getLast?_cons, h.bottom]
      rfl
    registered := by
      rw [hpages, List.forall_mem_cons]
      exact ⟨hregistered, h.registered⟩ }

theorem wellRouted_pop {s : σ} (h : WellRouted r nav)
    (hover : (r.pages nav.state).dropLast ≠ []) (hpop : r.pop nav.state = some s) :
    WellRouted r { nav with state := s } := by
  obtain ⟨page, below, rest, hstack⟩ : ∃ page below rest,
      r.pages nav.state = page :: below :: rest := by
    cases hpages : r.pages nav.state with
    | nil =>
        rw [hpages] at hover
        exact absurd rfl hover
    | cons page rest =>
        cases rest with
        | nil =>
            rw [hpages] at hover
            exact absurd rfl hover
        | cons below rest => exact ⟨page, below, rest, rfl⟩
  obtain ⟨s', hs', hlocation, hpages⟩ := hr.pop_spec hstack (List.cons_ne_nil _ _)
  obtain rfl : s = s' := Option.some.inj (hpop.symm.trans hs')
  have hbottom := h.bottom
  have hregistered := h.registered
  rw [hstack] at hbottom hregistered
  exact {
    base := hlocation ▸ h.base
    bottom := by
      rw [hlocation, hpages, ← hbottom, List.getLast?_cons_cons]
    registered := by
      rw [hpages]
      exact (List.forall_mem_cons.mp hregistered).2 }

theorem wellRouted_call {c : RouterCall} (h : WellRouted r nav) (hleads : Leads nav.loggedIn c)
    (hcall : nav.call r c = some nav') : WellRouted r nav' := by
  obtain ⟨s, hs, rfl⟩ := Option.map_eq_some_iff.mp hcall
  cases c with
  | go location => exact wellRouted_go hr hleads hs
  | goNamed name =>
      obtain ⟨location, hname, hbase⟩ := hleads
      rw [routed, namedLocation_eq hr, hname] at hs
      exact wellRouted_go hr hbase hs
  | push location extra => exact wellRouted_push hr h hleads hs
  | pushNamed name extra =>
      obtain ⟨location, hname, hregistered⟩ := hleads
      rw [routed, namedLocation_eq hr, hname] at hs
      exact wellRouted_push hr h hregistered hs
  | pop => exact hleads.elim

/-- Signing in or out sends the user to another main page, unless nothing has changed. -/
theorem wellRouted_refresh {s : σ} (h : WellRouted r nav)
    (hrefresh : r.refresh loggedIn nav.state = some s) : WellRouted r ⟨loggedIn, s⟩ := by
  obtain ⟨n, target, hn, hredirects, hbase⟩ := exists_redirects_of_mem_bases loggedIn h.base
  by_cases hsame : target = r.location nav.state
  · subst hsame
    have hstay := hr.refresh_stay (Router.redirects_of_allowed hbase.2.allowed)
    obtain rfl : nav.state = s := Option.some.inj (hstay.symm.trans hrefresh)
    -- the page below all others is there for the user now as before
    obtain ⟨-, l, hfind, -, hauth⟩ := h.registered _ (List.mem_of_getLast? h.bottom)
    obtain ⟨-, l', hfind', -, hauth'⟩ := hbase.2
    cases hfind.symm.trans hfind'
    have hloggedIn : loggedIn = nav.loggedIn := by
      rw [← Bool.not_inj_iff, Bool.eq_iff_iff, Bool.not_eq_true', Bool.not_eq_true', hauth, hauth']
    rw [hloggedIn]
    exact h
  · obtain ⟨s', hs', hlocation, hpages⟩ := hr.refresh_follow hredirects hn hsame
      (topLevel_of_mem_bases target hbase.1)
    obtain rfl : s = s' := Option.some.inj (hrefresh.symm.trans hs')
    exact {
      base := hlocation ▸ hbase.1
      bottom := by
        rw [hlocation, hpages]
        rfl
      registered := fun page hpage => by
        rw [hpages, List.mem_singleton] at hpage
        exact hpage ▸ hbase.2 }

/-- A conversation that is tapped in the host's inbox puts a page without a route on top. -/
theorem not_allShown_hostChat
    (hcall : nav.call r (InboxScreen.navigateInboxToChat hostInboxPath) = some nav')
    (hin : nav.loggedIn = true) : ¬ AllShown r nav' := by
  have hallowed : Router.Allowed true (hostInboxPath ++ "/" ++ chat) := by decide
  have hinfix : hostInbox.toList <:+: hostInboxPath.toList := by decide
  rw [InboxScreen.navigateInboxToChat, if_pos hinfix] at hcall
  obtain ⟨s, hs, rfl⟩ := Option.map_eq_some_iff.mp hcall
  obtain ⟨s', extra', hs', -, hpages, -⟩ := hr.push_spec nav.state (some .conversation)
    (Router.redirects_of_allowed (hin.symm ▸ hallowed)) (Nat.zero_le _)
  obtain rfl : s = s' := Option.some.inj (hs.symm.trans hs')
  intro hall
  obtain ⟨l, hmatched, -⟩ := hall ⟨hostInboxPath ++ "/" ++ chat, extra'⟩ (by
    rw [hpages]
    exact List.mem_cons_self)
  have hplain : GoRouter.Plain (hostInboxPath ++ "/" ++ chat) := by decide
  have hnone : Router.find (hostInboxPath ++ "/" ++ chat) = none := by decide +kernel
  rw [matched_eq hr hplain, hnone] at hmatched
  cases hmatched

/-- The page on top is at a route of the table, and what is tapped there is called. -/
theorem exists_tapped {t : Location.Tap} (h : WellRouted r nav)
    (hstep : step r nav (.tap t) = some nav') : ∃ page l c, (r.pages nav.state).head? = some page ∧
      l ∈ Router.table ∧ l.fullPath = page.location ∧
      (nav.loggedIn = false ↔ l.screen.isAuth = true) ∧ Location.onTap l t = some c ∧
      nav.call r c = some nav' := by
  obtain ⟨page, hhead, hbind⟩ := Option.bind_eq_some_iff.mp hstep
  obtain ⟨l, hmatched, hbind⟩ := Option.bind_eq_some_iff.mp hbind
  obtain ⟨c, htap, hcall⟩ := Option.bind_eq_some_iff.mp hbind
  obtain ⟨hplain, l', hfind, -, hauth⟩ := h.registered page (List.mem_of_head? hhead)
  rw [matched_eq hr hplain] at hmatched
  cases hfind.symm.trans hmatched
  obtain ⟨hmem, hpath⟩ := mem_table_of_find hfind
  exact ⟨page, l, c, hhead, hmem, hpath, hauth, htap, hcall⟩

theorem wellRouted_step {e : NavigatorEvent} (h : WellRouted r nav) (hchat : NoHostChat r nav e)
    (hstep : step r nav e = some nav') : WellRouted r nav' := by
  cases e with
  | tap t =>
      obtain ⟨page, l, c, hhead, hmem, hpath, hauth, htap, hcall⟩ := exists_tapped hr h hstep
      have hleads : Leads nav.loggedIn c := leads_onTap hmem hauth htap (by
        rintro rfl
        exact hpath ▸ hchat rfl page hhead)
      exact wellRouted_call hr h hleads hcall
  | back =>
      obtain ⟨hover, hcall⟩ := Option.ite_none_left_eq_some.mp hstep
      obtain ⟨s, hs, rfl⟩ := Option.map_eq_some_iff.mp hcall
      exact wellRouted_pop hr h hover hs
  | done =>
      obtain ⟨hpops, hcall⟩ := Option.ite_none_right_eq_some.mp hstep
      obtain ⟨s, hs, rfl⟩ := Option.map_eq_some_iff.mp hcall
      refine wellRouted_pop hr h (fun hnil => ?_) hs
      rw [hnil] at hpops
      cases hpops
  | authenticated loggedIn =>
      obtain ⟨s, hs, rfl⟩ := Option.map_eq_some_iff.mp hstep
      exact wellRouted_refresh hr h hs

theorem noHostChat_of_allShown {e : NavigatorEvent} (h : WellRouted r nav)
    (hstep : step r nav e = some nav') (hall : AllShown r nav') : NoHostChat r nav e := by
  rintro rfl page hpage hhost
  obtain ⟨page', l, c, hhead, hmem, hpath, hauth, htap, hcall⟩ := exists_tapped hr h hstep
  obtain rfl : page = page' := Option.some.inj (hpage.symm.trans hhead)
  simp only [Location.onTap, Option.ite_none_right_eq_some, Option.some.injEq] at htap
  obtain ⟨hl, rfl⟩ := htap
  rw [hpath, hhost] at hcall
  exact not_allShown_hostChat hr hcall (eq_true_of_isAuth hauth hl rfl) hall

/-- A conversation can be tapped wherever the host's inbox is on top. -/
theorem noHostChat_of_disabled {e : NavigatorEvent} (h : step r nav e = none) :
    NoHostChat r nav e := by
  rintro rfl page hpage hhost
  obtain ⟨l, hfind, hinbox⟩ : ∃ l, Router.find hostInboxPath = some l ∧ l.screen = .inbox :=
    ⟨_, rfl, rfl⟩
  have hmatched : r.matched page.location = some l := by
    rw [hhost, matched_eq hr (by decide), hfind]
  obtain ⟨n, target, hn, hredirects, -⟩ := Router.exists_redirects nav.loggedIn
    ((if hostInbox.toList <:+: l.fullPath.toList then hostInboxPath else inboxPath) ++ "/" ++ chat)
  obtain ⟨s', extra', hpush, -⟩ := hr.push_spec nav.state (some .conversation) hredirects
    (hn.trans (by decide))
  simp only [step, Option.mem_def.mp hpage, hmatched, Option.bind_some, Location.onTap, hinbox,
    if_true, InboxScreen.navigateInboxToChat, call, routed, hpush, Option.map_some] at h
  cases h

theorem exists_opened (loggedIn : Bool) :
    ∃ nav, opened r loggedIn = some nav ∧ WellRouted r nav := by
  have hmem : explorePath ∈ bases := by decide
  obtain ⟨n, target, hn, hredirects, hbase⟩ := exists_redirects_of_mem_bases loggedIn hmem
  obtain ⟨s, hs, hlocation, hpages⟩ := hr.opened_spec hredirects hn
    (topLevel_of_mem_bases target hbase.1)
  refine ⟨⟨loggedIn, s⟩, by rw [opened, hs, Option.map_some], ?_, ?_, ?_⟩
  · exact hlocation ▸ hbase.1
  · rw [hlocation, hpages]
    rfl
  · intro page hpage
    rw [hpages, List.mem_singleton] at hpage
    exact hpage ▸ hbase.2

end Runs

def stackRouter : AppRouter (GoRouter.PageStack Extra) :=
  GoRouter.PageStack.router Router.redirect router

theorem documented_stackRouter : GoRouter.Documented stackRouter router Router.redirect :=
  GoRouter.PageStack.documented_router _ _

def chatThenHost : List NavigatorEvent :=
  [.tap (.tab 3), .tap .conversation, .back, .tap (.tab 4), .tap (.hostMode true), .tap (.tab 1),
    .tap .createListing, .tap .address, .done, .done, .authenticated false]

/-- A host opens the inbox and taps a conversation. -/
example : ∃ nav nav', opened stackRouter true = some nav ∧
    Execution.run (step stackRouter) nav [.tap (.tab 4), .tap (.hostMode true), .tap (.tab 2),
      .tap .conversation] = some nav' ∧
    (stackRouter.pages nav'.state).head?.bind (fun page => stackRouter.matched page.location) =
      none :=
  ⟨_, _, rfl, rfl, rfl⟩

end Navigator

end AirBnbClone
