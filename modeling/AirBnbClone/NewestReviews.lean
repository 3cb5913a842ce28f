import AirBnbClone.FireStoreService
import AirBnbClone.QueryAgreement
import AirBnbClone.TopValues

/-!
# Limited review lists

The review methods limit their list twice: the listener fetches the newest reviews of the target,
and the local query sorts what the store holds of them and truncates it again. Whatever else the
store holds of the target's reviews, the rows shown have the largest creation times of all remote
reviews.
-/

namespace AirBnbClone

open FirestoreMapper RealmQueryBuilder TopValues

/-- The two limited lists: the reviews one user wrote of a target and all reviews of a target. -/
inductive ReviewList
  | byUserAndTarget (userId targetType targetId : String)
  | forTarget (targetType targetId : String)

namespace ReviewList

def remoteQuery (limit : Option ℤ) : ReviewList → FirestoreQueryBuilder
  | byUserAndTarget userId targetType targetId =>
      ReviewRepository.reviewsByUserAndTargetQuery userId targetType targetId limit
  | forTarget targetType targetId =>
      ReviewRepository.reviewsForTargetQuery targetType targetId limit

def localQuery (limit : Option ℤ) : ReviewList → RealmQueryBuilder
  | byUserAndTarget userId targetType targetId =>
      ReviewRepository.localReviewsByUserAndTarget userId targetType targetId limit
  | forTarget targetType targetId =>
      ReviewRepository.localReviewsForTarget targetType targetId limit

def equalities : ReviewList → List TextEquality
  | byUserAndTarget userId targetType targetId =>
      [⟨"user_id", "userId", userId⟩, ⟨"target_type", "targetType", targetType⟩,
        ⟨"target_id", "targetId", targetId⟩]
  | forTarget targetType targetId =>
      [⟨"target_type", "targetType", targetType⟩, ⟨"target_id", "targetId", targetId⟩]

def remote (m : ReviewList) (docs : DartMap Doc) : List (Sigma fun _ : String => Doc) :=
  ((m.remoteQuery none).build.results docs).entries

def newest (m : ReviewList) (k : ℕ) (docs : DartMap Doc) : List (Sigma fun _ : String => Doc) :=
  ((m.remoteQuery (some k)).build.results docs).entries

end ReviewList

def createdMillis (d : Doc) : ℤ :=
  match d.get "created_at" with
  | .int ms => ms
  | _ => 0

variable {m : ReviewList} {k : ℕ} {docs : DartMap Doc} {z : Zone}

namespace ReviewList

theorem reads (m : ReviewList) (z : Zone) : ∀ f ∈ m.equalities, f.Reads z .review := by
  cases m <;> simp only [equalities, List.forall_mem_cons]
  · exact ⟨⟨3, rfl, rfl⟩, ⟨5, rfl, rfl⟩, ⟨6, rfl, rfl⟩, nofun⟩
  · exact ⟨⟨5, rfl, rfl⟩, ⟨6, rfl, rfl⟩, nofun⟩

theorem remoteQuery_eq (m : ReviewList) (limit : Option ℤ) : m.remoteQuery limit =
    ReviewRepository.limited ((remoteEqualities FirestoreCollection.review m.equalities).orderBy
      "created_at" true) limit := by
  cases m <;> rfl

theorem localQuery_eq (m : ReviewList) (limit : Option ℤ) : m.localQuery limit =
    ReviewRepository.localLimited ((localEqualities m.equalities).sortDescending "createdAt")
      limit := by
  cases m <;> rfl

def unlimited (m : ReviewList) : FirestoreQueryBuilder :=
  (remoteEqualities FirestoreCollection.review m.equalities).orderBy "created_at" true

theorem limit?_unlimited (m : ReviewList) : m.unlimited.limit? = none := by
  cases m <;> rfl

/-- The newest reviews come first; there are no range comparisons to order by. -/
theorem normalizedOrderBys_unlimited (m : ReviewList) :
    m.unlimited.build.normalizedOrderBys = [("created_at", true)] := by
  have hfilter : m.unlimited.filter? = none := by
    cases m <;> rfl
  rw [Query.normalizedOrderBys_eq (Query.inequalityFilterFields_build hfilter)]
  cases m <;> rfl

theorem lastDescending_unlimited (m : ReviewList) : m.unlimited.build.lastDescending = true := by
  cases m <;> rfl

theorem remote_eq : m.remote docs = (m.unlimited.build.results docs).entries := by
  rw [remote, remoteQuery_eq]
  rfl

theorem newest_eq_take (hk : 0 < k) : m.newest k docs = (m.remote docs).take k := by
  have hbuild : (m.remoteQuery (some k)).build = { m.unlimited.build with limit := some k } := by
    rw [remoteQuery_eq]
    change (if 0 < (k : ℤ) then _ else _ : FirestoreQueryBuilder).build = _
    rw [if_pos (Int.natCast_pos.mpr hk)]
    simp only [FirestoreQueryBuilder.build, FirestoreQueryBuilder.limit, Int.natCast_pos.mpr hk,
      if_true, Int.toNat_natCast]
    rfl
  have hnone : m.unlimited.build.limit = none := by
    simp only [FirestoreQueryBuilder.build, limit?_unlimited]
  rw [newest, hbuild, remote_eq]
  simp only [Query.results, Query.truncate, hnone]
  rfl

end ReviewList

section Remote

/-- Two entries with integer creation times are ordered by them first. -/
theorem order_createdMillis {a b : Sigma fun _ : String => Doc} {ma mb : ℤ}
    (ha : a.2.get "created_at" = .int ma) (hb : b.2.get "created_at" = .int mb) :
    (m.unlimited.build.order a b ≠ .gt → mb ≤ ma) ∧
      (¬ m.unlimited.build.order a b ≠ .gt → ma ≤ mb) := by
  have horder : m.unlimited.build.order a b = (compare ma mb).swap.then
      (Query.directed true (compareOfLessAndEq a.1 b.1)) := by
    simp only [Query.order, ReviewList.normalizedOrderBys_unlimited,
      ReviewList.lastDescending_unlimited, List.foldr_cons, List.foldr_nil, ha, hb]
    rfl
  rw [horder]
  obtain hlt | rfl | hgt := lt_trichotomy ma mb
  · simp [compare_lt_iff_lt.mpr hlt, hlt.le]
  · exact ⟨fun _ => le_rfl, fun _ => le_rfl⟩
  · simp [compare_gt_iff_gt.mpr hgt, hgt.le]

theorem createdMillis_eq {d : Doc} {ms : ℤ} (h : d.get "created_at" = .int ms) :
    createdMillis d = ms := by
  rw [createdMillis, h]

/-- The limited listener fetches reviews with the largest creation times. -/
theorem map_newest (hk : 0 < k)
    (hmillis : ∀ e ∈ m.remote docs, ∃ ms, e.2.get "created_at" = .int ms) :
    (m.newest k docs).map (fun e => createdMillis e.2) =
      largest k ((m.remote docs).map (fun e => createdMillis e.2)) := by
  have hnone : m.unlimited.build.limit = none := by
    simp only [FirestoreQueryBuilder.build, ReviewList.limit?_unlimited]
  have hsorted : ((m.remote docs).map (fun e => createdMillis e.2)).Pairwise (· ≥ ·) := by
    rw [List.pairwise_map]
    rw [ReviewList.remote_eq] at hmillis ⊢
    simp only [Query.results, Query.truncate, hnone, List.mem_insertionSort] at hmillis ⊢
    apply pairwise_insertionSort_of
    · intro a ha b hb hle
      obtain ⟨ma, hma⟩ := hmillis a ha
      obtain ⟨mb, hmb⟩ := hmillis b hb
      rw [createdMillis_eq hma, createdMillis_eq hmb]
      exact (order_createdMillis hma hmb).1 hle
    · intro a ha b hb hgt
      obtain ⟨ma, hma⟩ := hmillis a ha
      obtain ⟨mb, hmb⟩ := hmillis b hb
      rw [createdMillis_eq hma, createdMillis_eq hmb]
      exact (order_createdMillis hma hmb).2 hgt
  rw [ReviewList.newest_eq_take hk, List.map_take, largest_of_pairwise hsorted]

end Remote

section Local

variable {r : Realm}

def ReviewList.rows (m : ReviewList) (r : Realm) : List Review :=
  ((r.all .review).map Row.entity).filter (fun x => (m.localQuery none).accepts .review x)

theorem nodup_rows : ((m.rows r).map Review.id).Nodup := by
  have hids := Realm.nodup_ids r .review
  rw [show (fun row : Row .review => Entity.id .review row.entity) = Review.id ∘ Row.entity from
    rfl, ← List.map_map] at hids
  exact hids.sublist (List.filter_sublist.map _)

theorem represents_localQuery (m : ReviewList) (limit : Option ℤ) :
    (m.localQuery limit).Represents
      (m.equalities.mapIdx (fun n f => .compare ⟨f.name, .equal, n⟩))
      [.sort "createdAt" true] := by
  rw [ReviewList.localQuery_eq]
  have hsorted := (represents_localEqualities (m.reads Zone.utc)).sort
    (by decide : Rql.Plain "createdAt".toList) true
  exact represents_localLimited hsorted limit

theorem queryValues_localQuery (m : ReviewList) (limit : Option ℤ) :
    (m.localQuery limit).queryValues = m.equalities.map (fun f => .string f.text) := by
  rw [ReviewList.localQuery_eq, queryValues_localLimited]
  exact queryValues_localEqualities

theorem accepts_localQuery (m : ReviewList) (limit limit' : Option ℤ) (x : Review) :
    (m.localQuery limit).accepts .review x = (m.localQuery limit').accepts .review x := by
  rw [(represents_localQuery m limit).accepts_eq, (represents_localQuery m limit').accepts_eq,
    queryValues_localQuery, queryValues_localQuery]

theorem limit?_localQuery (m : ReviewList) (hk : 0 < k) :
    (m.localQuery (some k)).limit? = some (k : ℤ) := by
  rw [ReviewList.localQuery_eq]
  change (if 0 < (k : ℤ) then _ else _ : RealmQueryBuilder).limit? = _
  rw [if_pos (Int.natCast_pos.mpr hk)]
  rfl

/-- Rows with a creation time are sorted by it. -/
theorem order_createdAt {x y : Review} {tx ty : ℤ} (hx : x.createdAt = some tx)
    (hy : y.createdAt = some ty) :
    Query.directed true (Rql.order (Entity.property .review x "createdAt")
      (Entity.property .review y "createdAt")) = (compare tx ty).swap := by
  obtain ⟨_, _, _, _, _, _, _⟩ := x
  obtain ⟨_, _, _, _, _, _, _⟩ := y
  cases hx
  cases hy
  rfl

theorem limitDescriptors_natCast (hk : 0 < k) :
    limitDescriptors (some (k : ℤ)) = [.limit k] := by
  rw [limitDescriptors, if_pos (Int.natCast_pos.mpr hk), Int.toNat_natCast]

/-- The local query shows the rows with the largest creation times the store holds. -/
theorem map_getEntities (hk : 0 < k) (hcreated : ∀ x ∈ m.rows r, ∃ t, x.createdAt = some t) :
    (RealmService.getEntities r .review (m.localQuery (some k))).map Review.createdAt =
      (largest k ((m.rows r).map (fun x => x.createdAt.getD 0))).map some := by
  have hselect : RealmService.getEntities r .review (m.localQuery (some k)) =
      ((m.rows r).insertionSort (fun x y => Query.directed true
        (Rql.order (Entity.property .review x "createdAt")
          (Entity.property .review y "createdAt")) ≠ .gt)).take k := by
    have hall := (represents_localQuery m (some k)).select_eq .review
      ((r.all .review).map Row.entity)
    simp only [limit?_localQuery m hk, accepts_localQuery m (some k) none,
      limitDescriptors_natCast hk] at hall
    exact hall
  rw [hselect, ← map_take_insertionSort (r := fun x y => Query.directed true
    (Rql.order (Entity.property .review x "createdAt")
      (Entity.property .review y "createdAt")) ≠ .gt), List.map_map]
  · apply List.map_congr_left
    intro x hx
    obtain ⟨t, ht⟩ := hcreated x ((List.mem_insertionSort _).mp (List.mem_of_mem_take hx))
    rw [Function.comp_apply, ht]
    rfl
  · intro x hx y hy hle
    obtain ⟨tx, htx⟩ := hcreated x hx
    obtain ⟨ty, hty⟩ := hcreated y hy
    rw [order_createdAt htx hty] at hle
    rw [htx, hty]
    by_contra hlt
    rw [Option.getD_some, Option.getD_some, not_le] at hlt
    rw [compare_lt_iff_lt.mpr hlt] at hle
    exact hle rfl
  · intro x hx y hy hgt
    obtain ⟨tx, htx⟩ := hcreated x hx
    obtain ⟨ty, hty⟩ := hcreated y hy
    rw [order_createdAt htx hty, not_not] at hgt
    rw [htx, hty]
    by_contra hlt
    rw [Option.getD_some, Option.getD_some, not_le] at hlt
    rw [compare_gt_iff_gt.mpr hlt] at hgt
    cases hgt

end Local

section Decoded

variable {r : Realm} {id : String} {d : Doc} {x : Review}

theorem createdAt_of_decoded {ms : ℤ} (hx : fromDocumentSnapshot z .review id d = .ok x)
    (hms : d.get "created_at" = .int ms) : x.createdAt = some (ms * 1000) := by
  have hfield : (fieldDecoders z .review)[7]? =
      some (field "created_at" (Cast.parseDateTime z) .date?) := rfl
  have hname : (propertyNames .review)[7]? = some "createdAt" := rfl
  obtain ⟨a, ha, hp⟩ := property_of_fromMap_ok hx hname hfield
  rw [withSnapshotId_get_of_ne (by decide), hms] at ha
  simp only [Cast.parseDateTime, DateTime.fromMillisecondsSinceEpoch] at ha
  split_ifs at ha
  cases ha
  obtain ⟨_, _, _, _, _, _, _⟩ := x
  cases hp
  rfl

theorem accepts_withSnapshotId {c : Condition} (hc : c.field ≠ "id") :
    c.accepts (withSnapshotId id d) = c.accepts d := by
  have hlookup : (withSnapshotId id d).lookup c.field = d.lookup c.field := by
    unfold withSnapshotId
    split_ifs
    · rw [FiniteMap.lookup_insert_eq_ite, if_neg hc]
    · rfl
  unfold Condition.accepts
  rw [hlookup]

theorem keys_ne_id (m : ReviewList) : ∀ f ∈ m.equalities, f.key ≠ "id" := by
  cases m <;> simp [ReviewList.equalities]

/-- A remote review of the list decodes to a row of the list. -/
theorem accepts_of_decoded (hx : fromDocumentSnapshot z .review id d = .ok x)
    (hd : (⟨id, d⟩ : Sigma fun _ : String => Doc) ∈ m.remote docs) :
    (m.localQuery none).accepts .review x = true := by
  have haccepts : m.unlimited.build.accepts d = true := by
    rw [ReviewList.remote_eq] at hd
    exact (Query.mem_of_lookup_results (AList.mem_lookup_iff.mpr hd)).2
  rw [accepts_local hx (m.reads z) (represents_localQuery m none) (queryValues_localQuery m none)]
  have hfilters := (Query.accepts_iff.mp haccepts).1
  rw [List.all_eq_true]
  intro f hf
  rw [accepts_withSnapshotId (keys_ne_id m f hf)]
  apply hfilters (.where ⟨f.key, .isEqualTo, .string f.text⟩)
  cases m <;> exact List.mem_map_of_mem (f := fun f : TextEquality =>
    Filter.where ⟨f.key, .isEqualTo, .string f.text⟩) hf

end Decoded

section Between

variable {r : Realm}

/-- No row of the list is anything but a decoded remote review. -/
theorem rows_subperm_remote
    (hreviews : ∀ e ∈ m.remote docs, OwnId e.1 e.2 ∧ ∃ ms, e.2.get "created_at" = .int ms)
    (honly : ∀ x ∈ m.rows r, ∃ e ∈ m.remote docs,
      fromDocumentSnapshot z .review e.1 e.2 = .ok x) :
    (∀ x ∈ m.rows r, ∃ t, x.createdAt = some t) ∧
      ((m.rows r).map (fun x => x.createdAt.getD 0)).Subperm
        ((m.remote docs).map (fun e => createdMillis e.2 * 1000)) := by
  have hrow : ∀ x ∈ m.rows r, ∃ e ∈ m.remote docs, e.1 = x.id ∧
      x.createdAt = some (createdMillis e.2 * 1000) := by
    intro x hx
    obtain ⟨e, he, hdecoded⟩ := honly x hx
    obtain ⟨hown, ms, hms⟩ := hreviews e he
    refine ⟨e, he, (id_of_fromDocumentSnapshot_ok hown.2 hdecoded).symm, ?_⟩
    rw [createdMillis_eq hms, createdAt_of_decoded hdecoded hms]
  constructor
  · intro x hx
    obtain ⟨e, -, -, hcreated⟩ := hrow x hx
    exact ⟨_, hcreated⟩
  · apply map_subperm_of_keys nodup_rows (k := Sigma.fst)
    intro x hx
    obtain ⟨e, he, hid, hcreated⟩ := hrow x hx
    refine ⟨e, he, hid, ?_⟩
    rw [hcreated]
    rfl

/-- The rows of the list include what the limited listener fetched. -/
theorem newest_subperm_rows (hk : 0 < k)
    (hreviews : ∀ e ∈ m.remote docs, OwnId e.1 e.2 ∧ ∃ ms, e.2.get "created_at" = .int ms)
    (hnewest : ∀ e ∈ m.newest k docs, ∃ x, fromDocumentSnapshot z .review e.1 e.2 = .ok x ∧
      RealmService.getEntity r .review e.1 = some x) :
    ((m.newest k docs).map (fun e => createdMillis e.2 * 1000)).Subperm
      ((m.rows r).map (fun x => x.createdAt.getD 0)) := by
  have hkeys : ((m.newest k docs).map Sigma.fst).Nodup :=
    ((m.remoteQuery (some k)).build.results docs).nodupKeys
  apply map_subperm_of_keys hkeys (k := Review.id)
  intro e he
  have hremote : e ∈ m.remote docs := by
    rw [ReviewList.newest_eq_take hk] at he
    exact List.mem_of_mem_take he
  obtain ⟨x, hdecoded, hfind⟩ := hnewest e he
  obtain ⟨hown, ms, hms⟩ := hreviews e hremote
  obtain ⟨row, hrow, rfl⟩ := Option.map_eq_some_iff.mp hfind
  refine ⟨row.entity, ?_, id_of_fromDocumentSnapshot_ok hown.2 hdecoded, ?_⟩
  · exact List.mem_filter.mpr ⟨List.mem_map_of_mem ((Realm.mem_all_iff row).mpr ⟨e.1, hrow⟩),
      accepts_of_decoded hdecoded hremote⟩
  · rw [createdAt_of_decoded hdecoded hms, createdMillis_eq hms]
    rfl

end Between

/-- If the store holds the newest remote reviews of a list, and no row of the list that is not a
decoded remote review, then the limited local query shows the largest creation times. -/
theorem createdAt_shown_eq_largest (z : Zone) (m : ReviewList) (k : ℕ) (docs : DartMap Doc)
    (r : Realm) (hk : 0 < k)
    (hreviews : ∀ e ∈ m.remote docs, OwnId e.1 e.2 ∧ ∃ ms, e.2.get "created_at" = .int ms)
    (hnewest : ∀ e ∈ m.newest k docs, ∃ x, fromDocumentSnapshot z .review e.1 e.2 = .ok x ∧
      RealmService.getEntity r .review e.1 = some x)
    (honly : ∀ x ∈ m.rows r, ∃ e ∈ m.remote docs,
      fromDocumentSnapshot z .review e.1 e.2 = .ok x) :
    (RealmService.getEntities r .review (m.localQuery (some k))).map Review.createdAt =
      (largest k ((m.remote docs).map (fun e => createdMillis e.2))).map
        (fun ms => some (ms * 1000)) := by
  obtain ⟨hcreated, hbelow⟩ := rows_subperm_remote hreviews honly
  have hthousand : StrictMono (fun ms : ℤ => ms * 1000) := by
    intro a b hab
    dsimp only
    omega
  have hscaled : largest k ((m.remote docs).map (fun e => createdMillis e.2 * 1000)) =
      (largest k ((m.remote docs).map (fun e => createdMillis e.2))).map (· * 1000) := by
    rw [← largest_map hthousand, List.map_map]
    rfl
  have habove : (largest k ((m.remote docs).map (fun e => createdMillis e.2 * 1000))).Subperm
      ((m.rows r).map (fun x => x.createdAt.getD 0)) := by
    rw [hscaled, ← map_newest hk (fun e he => (hreviews e he).2), List.map_map]
    exact newest_subperm_rows hk hreviews hnewest
  rw [map_getEntities hk hcreated, largest_eq_of_subperm hbelow habove, hscaled, List.map_map]
  rfl

section OneReview

def ofPosting : ReviewList := .forTarget "posting" "p1"

def reviewDoc (id : String) (ms : ℤ) : Doc := DartMap.ofList [("id", .string id),
  ("target_type", .string "posting"), ("target_id", .string "p1"), ("created_at", .int ms)]

def twoReviews : DartMap Doc :=
  DartMap.ofList [("r1", reviewDoc "r1" 5), ("r2", reviewDoc "r2" 7)]

def reviewRow (id : String) (ms : ℤ) : Review :=
  ⟨id, 0, none, none, some "posting", some "p1", some (ms * 1000)⟩

def newerOnly : Realm := Realm.empty.add .review ⟨reviewRow "r2" 7, noLinks⟩

theorem createdAt_shown_eq_largest_newerOnly :
    (RealmService.getEntities newerOnly .review (ofPosting.localQuery (some 1))).map
      Review.createdAt = [some 7000] := by
  have hremote : ofPosting.remote twoReviews =
      [⟨"r2", reviewDoc "r2" 7⟩, ⟨"r1", reviewDoc "r1" 5⟩] := rfl
  have hnewest : ofPosting.newest 1 twoReviews = [⟨"r2", reviewDoc "r2" 7⟩] := rfl
  have hrows : ofPosting.rows newerOnly = [reviewRow "r2" 7] := by decide
  refine (createdAt_shown_eq_largest Zone.utc ofPosting 1 twoReviews newerOnly (by decide) ?_ ?_
    ?_).trans (by decide)
  · rw [hremote]
    simp only [List.forall_mem_cons]
    exact ⟨⟨⟨by decide, .inr rfl⟩, 7, rfl⟩, ⟨⟨by decide, .inr rfl⟩, 5, rfl⟩, nofun⟩
  · rw [hnewest]
    simp only [List.forall_mem_cons]
    exact ⟨⟨_, rfl, rfl⟩, nofun⟩
  · rw [hrows, hremote]
    simp only [List.forall_mem_cons]
    exact ⟨⟨_, List.mem_cons_self, rfl⟩, nofun⟩

end OneReview

end AirBnbClone
