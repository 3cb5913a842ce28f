import AirBnbClone.ConcurrentEarnings
import AirBnbClone.WriteProvenance

/-!
# Where an earning comes from

A run of `_createBookingAndUpdateHostEarning` adds the payment to the guest's earning and stores the
sum as the host's, so that concurrent runs overwrite each other and carry earnings from one user to
another. However they are interleaved, and whichever of them have not ended, what is stored as an
earning is an initial earning and the payments of distinct bookings that have ended.
-/

namespace AirBnbClone

open ReadWrite BookPostingCubit

namespace Pool

variable {ι : Type} [DecidableEq ι] {who : ι → Booker} {ids : AutoId} {f : Firestore}
  {p : Pool ι} {a : State ι String ℚ} {schedule : List ι}

def payments (who : ι → Booker) (l : List ι) : ℚ :=
  (l.map (fun i => (who i).request.paymentAmount)).sum

/-- Each booking of the list is made by the host of the one before it, the first by `user` and the
last at a place of `host`. -/
def HandsOn (who : ι → Booker) (user : String) (l : List ι) (host : String) : Prop :=
  Path (fun i => (who i).txn) user l host

omit [DecidableEq ι] in
theorem handOn_eq_add (earning : ℚ) (l : List ι) :
    handOn (fun i => (who i).txn) earning l = earning + payments who l := by
  induction l generalizing earning with
  | nil => exact (add_zero earning).symm
  | cons i l ih =>
      have hsum : payments who (i :: l) = (who i).request.paymentAmount + payments who l :=
        List.sum_cons
      rw [hsum, ← add_assoc]
      exact ih (earning + (who i).request.paymentAmount)

omit [DecidableEq ι] in
/-- A run whose earning is written has nothing left to do. -/
theorem done_of_remaining {held : ℚ} {i : ι} (h : Phase (who i) f held (p.processes i).prog)
    (hnone : p.remaining i = []) : (p.processes i).prog = pure () := by
  unfold remaining at hnone
  generalize (p.processes i).prog = prog at h hnone
  cases h with
  | starting => exact absurd hnone (List.cons_ne_nil _ _)
  | booked => exact absurd hnone (List.cons_ne_nil _ _)
  | read guest => exact absurd hnone (List.cons_ne_nil _ _)
  | finished guest host => rfl

theorem started_history
    (hremaining : ∀ j, (start who f).remaining j =
      (history who ids (start who f) schedule).filter (fun e => e.owner = j) ++ p.remaining j) :
    Started (history who ids (start who f) schedule) :=
  fun i => ⟨p.remaining i, (hremaining i).symm⟩

/-- In every state that concurrent bookings reach from users that are stored under their own ids and
can be read, an earning is the initial earning of some user and the payments of distinct, finished
bookings that lead from this user to the host. Earnings are added up without rounding. -/
theorem earning_handed_on (ids : AutoId) (who : ι → Booker) (f : Firestore)
    (schedule : List ι) (p : Pool ι) (hf : UsersWellFormed f)
    (hrun : Execution.run (Pool.step who ids) (start who f) schedule = some p) (host : String) :
    ∃ user l, l.Nodup ∧ (∀ i ∈ l, (p.processes i).prog = pure ()) ∧ HandsOn who user l host ∧
      storedEarning p.remote host = storedEarning f user + payments who l := by
  obtain ⟨hsim, hremaining⟩ := (simulates_start hf).run hrun
  have hstarted := started_history hremaining
  obtain ⟨user, l, hl, hpath, hvalue⟩ := (traced_exec hstarted).1 host
  refine ⟨user, l, hstarted.writers_nodup.sublist hl, ?_, hpath, ?_⟩
  · intro i hi
    apply done_of_remaining (hsim.phase i)
    have hwrite := mem_writers_iff.mp (hl.subset hi)
    exact rest_eq_nil (hremaining i) (List.mem_filter.mpr ⟨hwrite, decide_eq_true rfl⟩)
  · rw [← hsim.store, hvalue]
    exact handOn_eq_add _ _

/-- Both bookings are created first, then one run after the other goes on: the first host's 50
dollars are handed on to the second. -/
theorem earning_handed_on_inTurn : ∃ p user l,
    Execution.run (Pool.step eachOther AutoId.longer) (start eachOther twoUsers)
        [true, false, true, true, false, false] = some p ∧
      l.Nodup ∧ (∀ i ∈ l, (p.processes i).prog = pure ()) ∧ HandsOn eachOther user l "u1" ∧
      storedEarning p.remote "u1" = storedEarning twoUsers user + payments eachOther l := by
  obtain ⟨p, hp⟩ : ∃ p, Execution.run (Pool.step eachOther AutoId.longer)
      (start eachOther twoUsers) [true, false, true, true, false, false] = some p := ⟨_, rfl⟩
  obtain ⟨user, l, h⟩ := earning_handed_on AutoId.longer eachOther twoUsers _ p
    usersWellFormed_twoUsers hp "u1"
  exact ⟨p, user, l, hp, h⟩

end Pool

end AirBnbClone
