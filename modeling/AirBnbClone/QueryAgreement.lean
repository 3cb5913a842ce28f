import AirBnbClone.Repositories
import AirBnbClone.RealmQueryBuilder
import AirBnbClone.StoredForms

/-!
# Remote and local query of one method

Every reading method states its predicate twice: as a Firestore query over document fields and as a
Realm query over the properties of the decoded rows. On the documents the app writes, the two select
the same: a field and its property are related by the decoder of the model, and a comparison of the
one is the comparison of the other.
-/

namespace AirBnbClone

open FirestoreMapper RealmQueryBuilder

namespace BookingRepository

def localBookingsForPosting (postingId : String) (userId : Option String) : RealmQueryBuilder :=
  let query := RealmQueryBuilder.new.equal "postingId" (.string postingId)
  match userId with
  | some userId => query.equal "userId" (.string userId)
  | none => query

/-- No query is built from a number of milliseconds that is not a `DateTime`. -/
def localCheckOutFrom (dateMillis : ℤ) : Option RealmQueryBuilder :=
  (DateTime.fromMillisecondsSinceEpoch dateMillis).map (fun t =>
    RealmQueryBuilder.new.greaterThanOrEqualTo "checkOut" (.dateTime t))

def localCheckOutBefore (dateMillis : ℤ) : Option RealmQueryBuilder :=
  (DateTime.fromMillisecondsSinceEpoch dateMillis).map (fun t =>
    RealmQueryBuilder.new.lessThan "checkOut" (.dateTime t))

end BookingRepository

namespace PostingRepository

def localPostings (hostId : String) : RealmQueryBuilder :=
  RealmQueryBuilder.new.equal "hostId" (.string hostId)

end PostingRepository

namespace MessageRepository

def localMessages (conversationId : String) : RealmQueryBuilder :=
  (RealmQueryBuilder.new.equal "conversationId" (.string conversationId)).sortAscending "createdAt"

end MessageRepository

namespace FavouritePostingRepository

def localFavouritePostings (userId : String) : RealmQueryBuilder :=
  RealmQueryBuilder.new.equal "userId" (.string userId)

def favouritePostingQuery (userId postingId : String) : FirestoreQueryBuilder :=
  ((FirestoreQueryBuilder.new FirestoreCollection.favouritePosting).equalTo "user_id"
    (.string userId)).equalTo "posting_id" (.string postingId)

def localFavouritePosting (userId postingId : String) : RealmQueryBuilder :=
  (RealmQueryBuilder.new.equal "userId" (.string userId)).equal "postingId" (.string postingId)

end FavouritePostingRepository

namespace ReviewRepository

/-- `if (lim != null && lim > 0) realmQuery = realmQuery.limit(lim)`. -/
def localLimited (b : RealmQueryBuilder) : Option ℤ → RealmQueryBuilder
  | some lim => if 0 < lim then b.limit lim else b
  | none => b

def localReviewsByUserAndTarget (userId targetType targetId : String) (limit : Option ℤ) :
    RealmQueryBuilder :=
  localLimited ((((RealmQueryBuilder.new.equal "userId" (.string userId)).equal "targetType"
    (.string targetType)).equal "targetId" (.string targetId)).sortDescending "createdAt") limit

def localReviewsForTarget (targetType targetId : String) (limit : Option ℤ) : RealmQueryBuilder :=
  localLimited (((RealmQueryBuilder.new.equal "targetType" (.string targetType)).equal "targetId"
    (.string targetId)).sortDescending "createdAt") limit

end ReviewRepository

inductive ReadMethod
  | getBookingsForPosting (postingId : String) (userId : Option String)
  | observeBookingsWithCheckOutFrom (dateMillis : ℤ)
  | observeBookingsWithCheckOutBefore (dateMillis : ℤ)
  | observePostings (hostId : String)
  | observeMessagesByConversationId (conversationId : String)
  | observeFavouritePostings (userId : String)
  | getFavouritePosting (userId postingId : String)
  | observeReviewsByUserAndTarget (userId targetType targetId : String) (limit : Option ℤ)
  | observeReviewsForTarget (targetType targetId : String) (limit : Option ℤ)

namespace ReadMethod

def model : ReadMethod → Model
  | getBookingsForPosting .. => .booking
  | observeBookingsWithCheckOutFrom .. => .booking
  | observeBookingsWithCheckOutBefore .. => .booking
  | observePostings .. => .posting
  | observeMessagesByConversationId .. => .message
  | observeFavouritePostings .. => .favouritePosting
  | getFavouritePosting .. => .favouritePosting
  | observeReviewsByUserAndTarget .. => .review
  | observeReviewsForTarget .. => .review

def firestoreQuery : ReadMethod → FirestoreQueryBuilder
  | getBookingsForPosting postingId userId =>
      BookingRepository.bookingsForPostingQuery postingId userId
  | observeBookingsWithCheckOutFrom dateMillis => BookingRepository.checkOutFromQuery dateMillis
  | observeBookingsWithCheckOutBefore dateMillis => BookingRepository.checkOutBeforeQuery dateMillis
  | observePostings hostId => PostingRepository.observePostingsQuery hostId
  | observeMessagesByConversationId conversationId => MessageRepository.messagesQuery conversationId
  | observeFavouritePostings userId => FavouritePostingRepository.favouritePostingsQuery userId
  | getFavouritePosting userId postingId =>
      FavouritePostingRepository.favouritePostingQuery userId postingId
  | observeReviewsByUserAndTarget userId targetType targetId limit =>
      ReviewRepository.reviewsByUserAndTargetQuery userId targetType targetId limit
  | observeReviewsForTarget targetType targetId limit =>
      ReviewRepository.reviewsForTargetQuery targetType targetId limit

def realmQuery : ReadMethod → Option RealmQueryBuilder
  | getBookingsForPosting postingId userId =>
      some (BookingRepository.localBookingsForPosting postingId userId)
  | observeBookingsWithCheckOutFrom dateMillis => BookingRepository.localCheckOutFrom dateMillis
  | observeBookingsWithCheckOutBefore dateMillis => BookingRepository.localCheckOutBefore dateMillis
  | observePostings hostId => some (PostingRepository.localPostings hostId)
  | observeMessagesByConversationId conversationId =>
      some (MessageRepository.localMessages conversationId)
  | observeFavouritePostings userId =>
      some (FavouritePostingRepository.localFavouritePostings userId)
  | getFavouritePosting userId postingId =>
      some (FavouritePostingRepository.localFavouritePosting userId postingId)
  | observeReviewsByUserAndTarget userId targetType targetId limit =>
      some (ReviewRepository.localReviewsByUserAndTarget userId targetType targetId limit)
  | observeReviewsForTarget targetType targetId limit =>
      some (ReviewRepository.localReviewsForTarget targetType targetId limit)

end ReadMethod

section Properties

variable {z : Zone} {T : Model} {d : Doc} {e : Entity T} {name : String} {i : ℕ}

theorem lookup_zip_of_nodup {names : List String} (hnames : names.Nodup) (ps : List Property)
    (hname : names[i]? = some name) : (names.zip ps).lookup name = ps[i]? := by
  induction names generalizing ps i with
  | nil => simp at hname
  | cons first names ih =>
      obtain ⟨hfirst, hrest⟩ := List.nodup_cons.mp hnames
      cases ps with
      | nil => rfl
      | cons p ps =>
          cases i with
          | zero =>
              cases hname
              simp
          | succ i =>
              have hne : name ≠ first := by
                rintro rfl
                exact hfirst (List.mem_of_getElem? hname)
              rw [List.zip_cons_cons, List.lookup_cons, beq_eq_false_iff_ne.mpr hne]
              exact ih hrest ps hname

theorem propertyNames_nodup (T : Model) : (propertyNames T).Nodup := by
  cases T <;> decide

/-- The property at a position is what the decoder reads from the key at that position. -/
theorem property_of_fromMap_ok {β : Type} {key : String} {cast : Value → Except DartError β}
    {pack : β → Property} (h : fromMap z T d = .ok e) (hname : (propertyNames T)[i]? = some name)
    (hfield : (fieldDecoders z T)[i]? = some (field key cast pack)) :
    ∃ a, cast (d.get key) = .ok a ∧ Entity.property T e name = some (pack a) := by
  have hread := getElem?_of_fromMap_ok h i
  rw [List.getElem?_map, List.getElem?_map, hfield, Option.map_some] at hread
  obtain ⟨p, hp, hdecode⟩ := Option.map_eq_some_iff.mp hread.symm
  obtain ⟨a, ha, rfl⟩ := (ExceptTraverse.map_eq_ok_iff _ _ _).mp hdecode.symm
  refine ⟨a, ha, ?_⟩
  rw [Entity.property, lookup_zip_of_nodup (propertyNames_nodup T) _ hname, hp]

end Properties

section Conditions

variable {z : Zone} {T : Model} {d : Doc} {e : Entity T} {key name : String} {i n : ℕ}
  {values : List Scalar}

theorem accepts_equal_text (h : fromMap z T d = .ok e) (hname : (propertyNames T)[i]? = some name)
    (hfield : (fieldDecoders z T)[i]? = some (field key Cast.string? .text?)) {s : String}
    (hvalue : values[n]? = some (.string s)) :
    Condition.accepts ⟨key, .isEqualTo, .string s⟩ d =
      Rql.Comparison.accepts values (Entity.property T e) ⟨name, .equal, n⟩ := by
  obtain ⟨a, ha, hp⟩ := property_of_fromMap_ok h hname hfield
  simp only [Condition.accepts, Rql.Comparison.accepts, hp, hvalue]
  unfold Doc.get at ha
  cases hv : d.lookup key with
  | none =>
      rw [hv] at ha
      cases ha
      rfl
  | some v =>
      rw [hv, Option.getD_some] at ha
      unfold Cast.string? at ha
      split at ha
      · cases ha
        rfl
      · cases ha
        rfl
      · cases ha

theorem compare_mul_thousand (a b : ℤ) : compare (a * 1000) (b * 1000) = compare a b := by
  obtain hlt | rfl | hgt := lt_trichotomy a b
  · rw [compare_lt_iff_lt.mpr hlt, compare_lt_iff_lt]
    omega
  · rw [compare_eq_iff_eq.mpr rfl, compare_eq_iff_eq.mpr rfl]
  · rw [compare_gt_iff_gt.mpr hgt, compare_gt_iff_gt]
    omega

/-- The two range comparisons, on a field stored in milliseconds and on the date decoded from it. -/
theorem order_millis {ms ms' : ℤ} {t t' : DateTime}
    (ht : DateTime.fromMillisecondsSinceEpoch ms = some t)
    (ht' : DateTime.fromMillisecondsSinceEpoch ms' = some t') :
    Scalar.order (.dateTime (.utc t.microsecondsSinceEpoch)) (.dateTime t') =
      Scalar.order (.int ms) (.int ms') := by
  simp only [DateTime.fromMillisecondsSinceEpoch] at ht ht'
  split_ifs at ht ht'
  cases ht
  cases ht'
  exact compare_mul_thousand ms ms'

theorem accepts_millis (h : fromMap z T d = .ok e) (hname : (propertyNames T)[i]? = some name)
    (hfield : (fieldDecoders z T)[i]? = some (field key (Cast.parseDateTime z) .date?))
    (hfits : Stored.millis.Fits (d.get key)) {ms : ℤ} {t : DateTime}
    (ht : DateTime.fromMillisecondsSinceEpoch ms = some t)
    (hvalue : values[n]? = some (.dateTime t)) :
    Condition.accepts ⟨key, .isGreaterThanOrEqualTo, .int ms⟩ d =
        Rql.Comparison.accepts values (Entity.property T e) ⟨name, .greaterThanOrEqual, n⟩ ∧
      Condition.accepts ⟨key, .isLessThan, .int ms⟩ d =
        Rql.Comparison.accepts values (Entity.property T e) ⟨name, .lessThan, n⟩ := by
  obtain ⟨a, ha, hp⟩ := property_of_fromMap_ok h hname hfield
  simp only [Condition.accepts, Rql.Comparison.accepts, hp, hvalue]
  unfold Doc.get at ha hfits
  cases hv : d.lookup key with
  | none =>
      rw [hv] at ha
      cases ha
      exact ⟨rfl, rfl⟩
  | some v =>
      rw [hv, Option.getD_some] at ha hfits
      obtain rfl | ⟨stored, rfl, hstored⟩ := hfits
      · cases ha
        exact ⟨rfl, rfl⟩
      · obtain ⟨u, hu⟩ := Option.isSome_iff_exists.mp hstored
        simp only [Cast.parseDateTime, hu] at ha
        cases ha
        have horder := order_millis hu ht
        constructor
        · change (_ && (Scalar.order (.int stored) (.int ms) != .lt)) = _
          rw [← horder]
          rfl
        · change (_ && (Scalar.order (.int stored) (.int ms) == .lt)) = _
          rw [← horder]
          rfl

end Conditions

section Methods

open RealmQueryBuilder

variable {z : Zone} {T : Model} {d : Doc} {e : Entity T} {b : RealmQueryBuilder}
  {ds : List Rql.Descriptor}

/-- An equality both builders receive: document key, property and text. -/
structure TextEquality where
  key : String
  name : String
  text : String

def TextEquality.Reads (z : Zone) (T : Model) (f : TextEquality) : Prop :=
  ∃ i : ℕ, (propertyNames T)[i]? = some f.name ∧
    (fieldDecoders z T)[i]? = some (field f.key Cast.string? .text?)

def remoteEqualities (collection : String) (fs : List TextEquality) : FirestoreQueryBuilder :=
  fs.foldl (fun q f => q.equalTo f.key (.string f.text)) (.new collection)

def localEqualities (fs : List TextEquality) : RealmQueryBuilder :=
  fs.foldl (fun b f => b.equal f.name (.string f.text)) .new

variable {fs : List TextEquality}

theorem plain_propertyNames (T : Model) : ∀ name ∈ propertyNames T, Rql.Plain name.toList := by
  cases T <;> decide

theorem localEqualities_append (f : TextEquality) : localEqualities (fs ++ [f]) =
    (localEqualities fs).equal f.name (.string f.text) := by
  rw [localEqualities, List.foldl_append]
  rfl

theorem remoteEqualities_eq (collection : String) : remoteEqualities collection fs =
    ⟨collection, fs.map (fun f => (f.key, .string f.text)), [], none, none⟩ := by
  induction fs using List.reverseRecOn with
  | nil => rfl
  | append_singleton fs f ih =>
      rw [remoteEqualities, List.foldl_append, ← remoteEqualities, ih, List.map_append]
      rfl

theorem represents_localEqualities (hfs : ∀ f ∈ fs, f.Reads z T) :
    (localEqualities fs).Represents (fs.mapIdx (fun n f => .compare ⟨f.name, .equal, n⟩)) [] := by
  induction fs using List.reverseRecOn with
  | nil => exact represents_new
  | append_singleton fs f ih =>
      obtain ⟨i, hname, -⟩ := hfs f (by simp)
      have hplain := plain_propertyNames T f.name (List.mem_of_getElem? hname)
      have hb := (ih fun g hg => hfs g (by simp [hg])).equal hplain (.string f.text)
      rw [localEqualities_append, List.mapIdx_concat]
      rwa [List.length_mapIdx] at hb

theorem queryValues_localEqualities :
    (localEqualities fs).queryValues = fs.map (fun f => .string f.text) := by
  induction fs using List.reverseRecOn with
  | nil => rfl
  | append_singleton fs f ih =>
      rw [localEqualities_append, List.map_append, ← ih]
      rfl

/-- What both queries of a method select when the local one consists of the equalities. -/
theorem accepts_local (h : fromMap z T d = .ok e) (hfs : ∀ f ∈ fs, f.Reads z T)
    (hb : b.Represents (fs.mapIdx (fun n f => .compare ⟨f.name, .equal, n⟩)) ds)
    (hvalues : b.queryValues = fs.map (fun f => .string f.text)) :
    b.accepts T e =
      fs.all (fun f => Condition.accepts ⟨f.key, .isEqualTo, .string f.text⟩ d) := by
  have hequal (n : ℕ) (f : TextEquality) (hf : fs[n]? = some f) :
      Condition.accepts ⟨f.key, .isEqualTo, .string f.text⟩ d =
        Rql.Comparison.accepts b.queryValues (Entity.property T e) ⟨f.name, .equal, n⟩ := by
    obtain ⟨i, hname, hfield⟩ := hfs f (List.mem_of_getElem? hf)
    apply accepts_equal_text h hname hfield
    rw [hvalues, List.getElem?_map, hf]
    rfl
  rw [hb.accepts_eq, Bool.eq_iff_iff, List.all_eq_true, List.all_eq_true]
  constructor
  · intro hall f hf
    obtain ⟨n, hn⟩ := List.mem_iff_getElem?.mp hf
    rw [hequal n f hn]
    apply hall (.compare ⟨f.name, .equal, n⟩)
    rw [List.mem_mapIdx]
    obtain ⟨hlt, hget⟩ := List.getElem?_eq_some_iff.mp hn
    exact ⟨n, hlt, by rw [hget]⟩
  · intro hall c hc
    obtain ⟨n, hn, rfl⟩ := List.mem_mapIdx.mp hc
    exact (hequal n _ (List.getElem?_eq_getElem hn)).symm.trans (hall _ (List.getElem_mem hn))

theorem accepts_remote {q : FirestoreQueryBuilder} {collection : String}
    (hequal : q.equalQueries = (remoteEqualities collection fs).equalQueries)
    (hfilter : q.filter? = none) (horder : ∀ o ∈ q.orderByQueries, o.1 ∈ d) :
    q.build.accepts d =
      fs.all (fun f => Condition.accepts ⟨f.key, .isEqualTo, .string f.text⟩ d) := by
  have hall : q.orderByQueries.all (fun o => (d.lookup o.1).isSome) = true := by
    rw [List.all_eq_true]
    intro o ho
    exact AList.lookup_isSome.mpr (horder o ho)
  rw [remoteEqualities_eq] at hequal
  rw [Query.accepts_build_eq hfilter, hall, hequal, Bool.and_true, List.all_map]
  rfl

/-- Both queries of a method are the same equalities on text fields. -/
theorem accepts_equalities (h : fromMap z T d = .ok e) (collection : String)
    (fs : List TextEquality) (hfs : ∀ f ∈ fs, f.Reads z T) :
    (remoteEqualities collection fs).build.accepts d = (localEqualities fs).accepts T e := by
  rw [accepts_local h hfs (represents_localEqualities hfs) queryValues_localEqualities]
  apply accepts_remote rfl
  · rw [remoteEqualities_eq]
  · rw [remoteEqualities_eq]
    exact List.forall_mem_nil _

theorem represents_localLimited {cs : List Rql.Clause} (hb : b.Represents cs ds)
    (limit : Option ℤ) : (ReviewRepository.localLimited b limit).Represents cs ds := by
  unfold ReviewRepository.localLimited
  split
  · split_ifs
    · exact ⟨hb.number, hb.empty, hb.text⟩
    · exact hb
  · exact hb

theorem queryValues_localLimited (b : RealmQueryBuilder) (limit : Option ℤ) :
    (ReviewRepository.localLimited b limit).queryValues = b.queryValues := by
  unfold ReviewRepository.localLimited
  split
  · split_ifs <;> rfl
  · rfl

theorem equalQueries_limited (q : FirestoreQueryBuilder) (limit : Option ℤ) :
    (ReviewRepository.limited q limit).equalQueries = q.equalQueries ∧
      (ReviewRepository.limited q limit).filter? = q.filter? ∧
      (ReviewRepository.limited q limit).orderByQueries = q.orderByQueries := by
  unfold ReviewRepository.limited
  split
  · split_ifs <;> exact ⟨rfl, rfl, rfl⟩
  · exact ⟨rfl, rfl, rfl⟩

theorem accepts_messages {e : Entity .message} (h : fromMap z .message d = .ok e)
    (conversationId : String) :
    (MessageRepository.messagesQuery conversationId).build.accepts d =
      (MessageRepository.localMessages conversationId).accepts .message e := by
  have hfs : ∀ f ∈ [⟨"conversation_id", "conversationId", conversationId⟩],
      TextEquality.Reads z .message f := by
    simp only [List.forall_mem_cons]
    exact ⟨⟨2, rfl, rfl⟩, nofun⟩
  have hsorted : (MessageRepository.localMessages conversationId).Represents _ _ :=
    (represents_localEqualities hfs).sort (by decide) false
  rw [accepts_local h hfs hsorted rfl]
  have hremote : (MessageRepository.messagesQuery conversationId).equalQueries =
      (remoteEqualities FirestoreCollection.message
        [⟨"conversation_id", "conversationId", conversationId⟩]).equalQueries := rfl
  exact accepts_remote hremote rfl nofun

theorem accepts_where (collection : String) (c : Condition) :
    ((FirestoreQueryBuilder.new collection).filter (.where c)).build.accepts d = c.accepts d :=
  Query.accepts_build_where rfl rfl

/-- The check-out methods compare milliseconds remotely and dates locally. -/
theorem accepts_checkOut {e : Entity .booking} (h : fromMap z .booking d = .ok e)
    (hd : Written .booking d) {dateMillis : ℤ} {t : DateTime}
    (ht : DateTime.fromMillisecondsSinceEpoch dateMillis = some t) :
    (BookingRepository.checkOutFromQuery dateMillis).build.accepts d =
        (new.greaterThanOrEqualTo "checkOut" (.dateTime t)).accepts .booking e ∧
      (BookingRepository.checkOutBeforeQuery dateMillis).build.accepts d =
        (new.lessThan "checkOut" (.dateTime t)).accepts .booking e := by
  have hfits : Stored.millis.Fits (d.get "check_out") := hd ("check_out", .millis) (by decide)
  have hname : (propertyNames .booking)[6]? = some "checkOut" := rfl
  have hvalue : [Scalar.dateTime t][0]? = some (.dateTime t) := rfl
  obtain ⟨hfrom, hbefore⟩ := accepts_millis h hname rfl hfits ht hvalue
  have hplain : Rql.Plain "checkOut".toList := by decide
  constructor
  · rw [(represents_new.greaterThanOrEqualTo hplain _).accepts_eq]
    exact (accepts_where _ _).trans (hfrom.trans (Bool.and_true _).symm)
  · rw [(represents_new.lessThan hplain _).accepts_eq]
    exact (accepts_where _ _).trans (hbefore.trans (Bool.and_true _).symm)

/-- The review methods also require the field they are ordered by. -/
theorem accepts_reviews {e : Entity .review} (h : fromMap z .review d = .ok e)
    (hcreated : "created_at" ∈ d) (collection : String) (fs : List TextEquality)
    (hfs : ∀ f ∈ fs, f.Reads z .review) (limit : Option ℤ) :
    (ReviewRepository.limited ((remoteEqualities collection fs).orderBy "created_at" true)
        limit).build.accepts d =
      (ReviewRepository.localLimited ((localEqualities fs).sortDescending "createdAt")
        limit).accepts .review e := by
  have hsorted : ((localEqualities fs).sortDescending "createdAt").Represents _ _ :=
    (represents_localEqualities hfs).sort (by decide) true
  rw [accepts_local h hfs (represents_localLimited hsorted limit)
    ((queryValues_localLimited _ limit).trans queryValues_localEqualities)]
  obtain ⟨hequal, hfilter, horder⟩ := equalQueries_limited
    ((remoteEqualities collection fs).orderBy "created_at" true) limit
  rw [remoteEqualities_eq] at hfilter horder
  apply accepts_remote (hequal.trans rfl) (by rw [remoteEqualities_eq, hfilter]; rfl)
  rw [remoteEqualities_eq, horder]
  intro o ho
  simp only [FirestoreQueryBuilder.orderBy, List.nil_append, List.mem_singleton] at ho
  rw [ho]
  exact hcreated

theorem holds_equal_text (o : Option String) (s : String) :
    Rql.holds .equal (.text? o) (.string s) = decide (o = some s) := by
  cases o with
  | none => rfl
  | some t =>
      change (compareOfLessAndEq t s == .eq) = _
      rw [Bool.eq_iff_iff, beq_iff_eq, compareOfLessAndEq_eq_eq String.le_refl String.not_le,
        decide_eq_true_iff,
        Option.some_inj]

/-- The rows `getBookingsForPosting` reads are those its local query selects. -/
theorem bookingsForPosting_eq_getEntities (postingId : String) (userId : Option String)
    (r : Realm) : BookingRepository.bookingsForPosting postingId userId r =
      RealmService.getEntities r .booking
        (BookingRepository.localBookingsForPosting postingId userId) := by
  unfold BookingRepository.bookingsForPosting RealmService.getEntities
  have hfirst := represents_new.equal (by decide : Rql.Plain "postingId".toList) (.string postingId)
  cases userId with
  | none =>
      refine Eq.trans ?_ (hfirst.select_eq .booking _).symm
      apply List.filter_congr
      intro x _
      rw [hfirst.accepts_eq]
      have hx := holds_equal_text (Booking.postingId x) postingId
      simp only [Option.mem_def, reduceCtorEq, false_implies, implies_true, and_true]
      exact hx.symm.trans (Bool.and_true _).symm
  | some userId =>
      have hsecond := hfirst.equal (by decide : Rql.Plain "userId".toList) (.string userId)
      refine Eq.trans ?_ (hsecond.select_eq .booking _).symm
      apply List.filter_congr
      intro x _
      rw [hsecond.accepts_eq]
      have hx := holds_equal_text (Booking.postingId x) postingId
      have hy := holds_equal_text (Booking.userId x) userId
      simp only [Option.mem_def, Option.some.injEq, forall_eq']
      rw [Bool.decide_and, ← hx, ← hy, ← Bool.and_true (_ && _), Bool.and_assoc]
      rfl

end Methods

/-- The remote query of a method accepts a document of the app exactly when its local query accepts
the row decoded from it. -/
theorem remote_accepts_iff_local_accepts (z : Zone) (m : ReadMethod) (b : RealmQueryBuilder)
    (d : Doc) (hb : m.realmQuery = some b) (hd : Written m.model d)
    (hreview : m.model = .review → "created_at" ∈ d) :
    ∃ e, fromMap z m.model d = .ok e ∧
      (m.firestoreQuery.build.accepts d = true ↔ b.accepts m.model e = true) := by
  obtain ⟨e, he⟩ := exists_fromMap_of_written z hd
  refine ⟨e, he, ?_⟩
  rw [← Bool.eq_iff_iff]
  cases m with
  | getBookingsForPosting postingId userId =>
      cases hb
      cases userId with
      | none =>
          apply accepts_equalities he FirestoreCollection.booking
            [⟨"posting_id", "postingId", postingId⟩]
          simp only [List.forall_mem_cons]
          exact ⟨⟨1, rfl, rfl⟩, nofun⟩
      | some userId =>
          apply accepts_equalities he FirestoreCollection.booking
            [⟨"posting_id", "postingId", postingId⟩, ⟨"user_id", "userId", userId⟩]
          simp only [List.forall_mem_cons]
          exact ⟨⟨1, rfl, rfl⟩, ⟨3, rfl, rfl⟩, nofun⟩
  | observeBookingsWithCheckOutFrom dateMillis =>
      obtain ⟨t, ht, rfl⟩ := Option.map_eq_some_iff.mp hb
      exact (accepts_checkOut he hd ht).1
  | observeBookingsWithCheckOutBefore dateMillis =>
      obtain ⟨t, ht, rfl⟩ := Option.map_eq_some_iff.mp hb
      exact (accepts_checkOut he hd ht).2
  | observePostings hostId =>
      cases hb
      apply accepts_equalities he FirestoreCollection.posting [⟨"host_id", "hostId", hostId⟩]
      simp only [List.forall_mem_cons]
      exact ⟨⟨9, rfl, rfl⟩, nofun⟩
  | observeMessagesByConversationId conversationId =>
      cases hb
      exact accepts_messages he conversationId
  | observeFavouritePostings userId =>
      cases hb
      apply accepts_equalities he FirestoreCollection.favouritePosting
        [⟨"user_id", "userId", userId⟩]
      simp only [List.forall_mem_cons]
      exact ⟨⟨3, rfl, rfl⟩, nofun⟩
  | getFavouritePosting userId postingId =>
      cases hb
      apply accepts_equalities he FirestoreCollection.favouritePosting
        [⟨"user_id", "userId", userId⟩, ⟨"posting_id", "postingId", postingId⟩]
      simp only [List.forall_mem_cons]
      exact ⟨⟨3, rfl, rfl⟩, ⟨1, rfl, rfl⟩, nofun⟩
  | observeReviewsByUserAndTarget userId targetType targetId limit =>
      cases hb
      apply accepts_reviews he (hreview rfl) FirestoreCollection.review
        [⟨"user_id", "userId", userId⟩, ⟨"target_type", "targetType", targetType⟩,
          ⟨"target_id", "targetId", targetId⟩]
      simp only [List.forall_mem_cons]
      exact ⟨⟨3, rfl, rfl⟩, ⟨5, rfl, rfl⟩, ⟨6, rfl, rfl⟩, nofun⟩
  | observeReviewsForTarget targetType targetId limit =>
      cases hb
      apply accepts_reviews he (hreview rfl) FirestoreCollection.review
        [⟨"target_type", "targetType", targetType⟩, ⟨"target_id", "targetId", targetId⟩]
      simp only [List.forall_mem_cons]
      exact ⟨⟨5, rfl, rfl⟩, ⟨6, rfl, rfl⟩, nofun⟩

def secondNight : Doc := DartMap.ofList [("id", .string "b1"), ("posting_id", .string "p1"),
  ("user_id", .string "g1"), ("check_in", .int 86400000), ("check_out", .int 172800000)]

theorem written_secondNight : Written .booking secondNight := by
  have hin : (DateTime.fromMillisecondsSinceEpoch 86400000).isSome = true := by decide
  have hout : (DateTime.fromMillisecondsSinceEpoch 172800000).isSome = true := by decide
  simp only [Written, storedFields, List.forall_mem_cons]
  exact ⟨.inr ⟨"b1", rfl⟩, .inr ⟨"p1", rfl⟩, rfl, .inr ⟨"g1", rfl⟩, rfl,
    .inr ⟨86400000, rfl, hin⟩, .inr ⟨172800000, rfl, hout⟩, .inl rfl, List.forall_mem_nil _⟩

theorem remote_accepts_iff_local_accepts_secondNight :
    ∃ e, fromMap Zone.utc .booking secondNight = .ok e ∧
      ((BookingRepository.checkOutFromQuery 86400000).build.accepts secondNight = true ↔
        (new.greaterThanOrEqualTo "checkOut" (.dateTime ⟨86400000000, false⟩)).accepts .booking e =
          true) :=
  remote_accepts_iff_local_accepts Zone.utc (.observeBookingsWithCheckOutFrom 86400000) _
    secondNight rfl written_secondNight nofun

end AirBnbClone
