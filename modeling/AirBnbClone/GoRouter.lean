import Mathlib.Data.List.Basic
import Mathlib.Tactic.Common

/-!
# Declarative routing

An app gives a router its routes, which form a tree, and a redirection, which goes by what the app
knows at the time. The router keeps the pages that are on screen. `Documented` is all that is relied
on of a router; a stack of pages over the location gone to last is one that keeps to it.
-/

namespace GoRouter

/-- `ρ` is what the builder of a route shows, `η` what a shell puts around its routes. -/
inductive RouteBase (ρ η : Type)
  | goRoute (path : String) (name : Option String) (screen : ρ) (routes : List (RouteBase ρ η))
  | shellRoute (home : η) (routes : List (RouteBase ρ η))

structure Location (ρ η : Type) where
  fullPath : String
  path : String
  name : Option String
  screen : ρ
  home : Option η
  deriving DecidableEq

variable {ρ η κ ε σ : Type}

namespace RouteBase

def concatenatePaths (parentPath childPath : String) : String :=
  if parentPath = "/" then parentPath ++ childPath else parentPath ++ "/" ++ childPath

mutual

/-- The routes of a tree, under the path of its parent and inside a shell. -/
def locations (parent : Option String) (home : Option η) : RouteBase ρ η → List (Location ρ η)
  | .goRoute path name screen routes =>
      let fullPath := (parent.map (concatenatePaths · path)).getD path
      ⟨fullPath, path, name, screen, home⟩ :: locationsOf (some fullPath) home routes
  | .shellRoute home routes => locationsOf parent (some home) routes

def locationsOf (parent : Option String) (home : Option η) :
    List (RouteBase ρ η) → List (Location ρ η)
  | [] => []
  | route :: routes => locations parent home route ++ locationsOf parent home routes

end

end RouteBase

/-- The location consists of segments of letters, digits and underscores. Others may hold
parameters, a query or escaped characters. -/
def Plain (location : String) : Prop :=
  location = "/" ∨ ((location.toList.splitOn '/').head? = some [] ∧
    (location.toList.splitOn '/').tail ≠ [] ∧ ∀ segment ∈ (location.toList.splitOn '/').tail,
      segment ≠ [] ∧ segment.all (fun c => c.isAlphanum || c = '_'))

instance (location : String) : Decidable (Plain location) :=
  inferInstanceAs (Decidable (_ ∨ _))

/-- A route that is no sub-route has its own path as full path. -/
def TopLevel (routes : List (RouteBase ρ η)) (location : String) : Prop :=
  ∃ l ∈ RouteBase.locationsOf none none routes, l.fullPath = location ∧ l.path = location

structure Page (ε : Type) where
  location : String
  extra : Option ε

/-- The redirection leads from one location to another: it is asked about its own answer, so many
times, until it has none or answers with what it is asked about. -/
inductive Redirects (redirect : String → Option String) : ℕ → String → String → Prop
  | stay {location : String}
      (h : redirect location = none ∨ redirect location = some location) :
      Redirects redirect 0 location location
  | follow {n : ℕ} {location answer target : String} (h : redirect location = some answer)
      (hne : answer ≠ location) (hrest : Redirects redirect n answer target) :
      Redirects redirect (n + 1) location target

/-- What an app uses of the package: `κ` is what its redirection goes by, `σ` what the package
keeps, and a call may fail. -/
structure Router (ρ η κ ε σ : Type) where
  matched : String → Option (Location ρ η)
  namedLocation : String → Option String
  location : σ → String
  /-- The page that the user sees comes first. -/
  pages : σ → List (Page ε)
  opened : κ → String → Option σ
  go : κ → σ → String → Option σ
  push : κ → σ → String → Option ε → Option σ
  pop : σ → Option σ
  refresh : κ → σ → Option σ

/-- How many answers of the redirection are followed. -/
def redirectLimit : ℕ := 5

/-- What is documented of a router with these routes and this redirection. -/
structure Documented (router : Router ρ η κ ε σ) (routes : List (RouteBase ρ η))
    (redirect : κ → String → Option String) : Prop where
  /-- The first route with the location as its full path is the one that matches. -/
  matched_eq : (∀ l ∈ RouteBase.locationsOf none none routes, Plain l.fullPath) →
    ∀ location, Plain location → router.matched location =
      (RouteBase.locationsOf none none routes).find? (fun l => l.fullPath = location)
  namedLocation_eq : ∀ name, router.namedLocation name =
    ((RouteBase.locationsOf none none routes).find? (fun l => l.name = some name)).map
      Location.fullPath
  opened_spec : ∀ {k n location target}, Redirects (redirect k) n location target →
    n ≤ redirectLimit → TopLevel routes target → ∃ s, router.opened k location = some s ∧
      router.location s = target ∧ router.pages s = [⟨target, none⟩]
  /-- Going somewhere replaces all pages. -/
  go_spec : ∀ {k n location target} (s : σ), Redirects (redirect k) n location target →
    n ≤ redirectLimit → TopLevel routes target → ∃ s', router.go k s location = some s' ∧
      router.location s' = target ∧ router.pages s' = [⟨target, none⟩]
  /-- Pushing puts a page on top, with the extra if there is no redirection. -/
  push_spec : ∀ {k n location target} (s : σ) (extra : Option ε),
    Redirects (redirect k) n location target → n ≤ redirectLimit →
    ∃ s' extra', router.push k s location extra = some s' ∧
      router.location s' = router.location s ∧
      router.pages s' = ⟨target, extra'⟩ :: router.pages s ∧ (target = location → extra' = extra)
  pop_spec : ∀ {s page rest}, router.pages s = page :: rest → rest ≠ [] →
    ∃ s', router.pop s = some s' ∧ router.location s' = router.location s ∧ router.pages s' = rest
  /-- The redirection is asked again about the location; if it stays, so do all pages. -/
  refresh_stay : ∀ {k s}, Redirects (redirect k) 0 (router.location s) (router.location s) →
    router.refresh k s = some s
  refresh_follow : ∀ {k n s target}, Redirects (redirect k) n (router.location s) target →
    n ≤ redirectLimit → target ≠ router.location s → TopLevel routes target →
    ∃ s', router.refresh k s = some s' ∧ router.location s' = target ∧
      router.pages s' = [⟨target, none⟩]

/-- The location gone to last, and what was pushed over it. -/
structure PageStack (ε : Type) where
  base : String
  pushed : List (Page ε) := []

namespace PageStack

variable (redirect : κ → String → Option String) (k : κ)

/-- Where the redirection leads within a number of answers. -/
def settle : ℕ → String → Option String
  | 0, location =>
      if redirect k location = none ∨ redirect k location = some location then some location
      else none
  | limit + 1, location =>
      if redirect k location = none ∨ redirect k location = some location then some location
      else (redirect k location).bind (settle limit)

def pages (s : PageStack ε) : List (Page ε) := s.pushed ++ [⟨s.base, none⟩]

def go (location : String) : Option (PageStack ε) :=
  (settle redirect k redirectLimit location).map (fun target => { base := target })

/-- A redirected page comes without the extra. -/
def push (s : PageStack ε) (location : String) (extra : Option ε) : Option (PageStack ε) :=
  (settle redirect k redirectLimit location).map (fun target =>
    { s with pushed := ⟨target, if target = location then extra else none⟩ :: s.pushed })

def pop (s : PageStack ε) : Option (PageStack ε) :=
  if s.pushed = [] then none else some { s with pushed := s.pushed.tail }

/-- What was pushed over the base is kept if the base stays. -/
def refresh (s : PageStack ε) : Option (PageStack ε) :=
  (settle redirect k redirectLimit s.base).map (fun target =>
    if target = s.base then s else { base := target })

/-- The routes in the order of the tree, and a stack of pages. -/
def router (routes : List (RouteBase ρ η)) : Router ρ η κ ε (PageStack ε) where
  matched location :=
    (RouteBase.locationsOf none none routes).find? (fun l => l.fullPath = location)
  namedLocation name :=
    ((RouteBase.locationsOf none none routes).find? (fun l => l.name = some name)).map
      Location.fullPath
  location := base
  pages := pages
  opened k location := go redirect k location
  go k _ location := go redirect k location
  push := push redirect
  pop := pop
  refresh := refresh redirect

variable {redirect k} {n limit : ℕ} {location target : String}

theorem settle_of_redirects (h : Redirects (redirect k) n location target) (hn : n ≤ limit) :
    settle redirect k limit location = some target := by
  induction h generalizing limit with
  | stay h => cases limit <;> exact if_pos h
  | @follow n location answer target h hne _ ih =>
      cases limit with
      | zero => exact absurd hn (Nat.not_succ_le_zero n)
      | succ limit =>
          have hmoves : ¬ (redirect k location = none ∨ redirect k location = some location) := by
            rw [h]
            simpa using hne
          rw [settle, if_neg hmoves, h, Option.bind_some]
          exact ih (Nat.le_of_succ_le_succ hn)

theorem go_of_redirects (h : Redirects (redirect k) n location target) (hn : n ≤ redirectLimit) :
    go redirect k location = some (⟨target, []⟩ : PageStack ε) := by
  rw [go, settle_of_redirects h hn, Option.map_some]

theorem push_of_redirects (s : PageStack ε) (extra : Option ε)
    (h : Redirects (redirect k) n location target) (hn : n ≤ redirectLimit) :
    push redirect k s location extra = some { s with
      pushed := ⟨target, if target = location then extra else none⟩ :: s.pushed } := by
  rw [push, settle_of_redirects h hn, Option.map_some]

theorem refresh_of_redirects {s : PageStack ε} (h : Redirects (redirect k) n s.base target)
    (hn : n ≤ redirectLimit) :
    refresh redirect k s = some (if target = s.base then s else { base := target }) := by
  rw [refresh, settle_of_redirects h hn, Option.map_some]

/-- The stack of pages keeps to what is documented. -/
theorem documented_router (redirect : κ → String → Option String)
    (routes : List (RouteBase ρ η)) :
    Documented (router redirect routes : Router ρ η κ ε (PageStack ε)) routes redirect where
  matched_eq _ _ _ := rfl
  namedLocation_eq _ := rfl
  opened_spec h hn _ := ⟨_, go_of_redirects h hn, rfl, rfl⟩
  go_spec _ h hn _ := ⟨_, go_of_redirects h hn, rfl, rfl⟩
  push_spec s extra h hn :=
    ⟨_, _, push_of_redirects s extra h hn, rfl, rfl, fun hsame => if_pos hsame⟩
  pop_spec {s page rest} hpages hrest := by
    obtain ⟨base, pushed⟩ := s
    change pushed ++ [⟨base, none⟩] = page :: rest at hpages
    cases pushed with
    | nil => exact absurd (List.cons.inj hpages).2.symm hrest
    | cons page' pushed => exact ⟨⟨base, pushed⟩, rfl, rfl, (List.cons.inj hpages).2⟩
  refresh_stay h := (refresh_of_redirects h (Nat.zero_le _)).trans (congrArg some (if_pos rfl))
  refresh_follow h hn hne _ :=
    ⟨_, (refresh_of_redirects h hn).trans (congrArg some (if_neg hne)), rfl, rfl⟩

end PageStack

end GoRouter
