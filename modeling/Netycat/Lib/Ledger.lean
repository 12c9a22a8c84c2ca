import Mathlib.Data.List.Nodup
import Mathlib.Data.List.Perm.Basic

/-!
# Ledgers of objects and of jobs

Two accounts of what is numbered in the order of its creation.  An object
account says that each object is either live or has been destroyed, once.  A
job account says that each job is either open, with the history of a job of its
kind that has begun, or has a history that counts as settled.

The rules say how an account goes on when something is created, begun, settled
or merely moved.
-/

/-- Every object created is live or has been destroyed, and only once. -/
structure ObjectAccount
    (total : Nat) (created destroyed live : List Nat) : Prop where
  numbered : created = List.range total
  balanced : created.Perm (destroyed ++ live)

namespace ObjectAccount

variable {total : Nat} {created destroyed live live' : List Nat}

theorem empty : ObjectAccount 0 [] [] [] where
  numbered := rfl
  balanced := List.Perm.refl _

theorem perm
    (account : ObjectAccount total created destroyed live)
    (moved : live'.Perm live) :
    ObjectAccount total created destroyed live' where
  numbered := account.numbered
  balanced := account.balanced.trans (moved.symm.append_left destroyed)

theorem create
    (account : ObjectAccount total created destroyed live)
    (added : live'.Perm (total :: live)) :
    ObjectAccount (total + 1) (created ++ [total]) destroyed live' where
  numbered := by rw [account.numbered, List.range_succ]
  balanced := by
    have before :
        (created ++ [total]).Perm (destroyed ++ live ++ [total]) :=
      account.balanced.append_right [total]
    have last : (live ++ [total]).Perm live' :=
      (List.perm_append_singleton total live).trans added.symm
    rw [List.append_assoc] at before
    exact before.trans (last.append_left destroyed)

theorem destroy {object : Nat}
    (account : ObjectAccount total created destroyed live)
    (taken : live.Perm (object :: live')) :
    ObjectAccount total created (destroyed ++ [object]) live' where
  numbered := account.numbered
  balanced := by
    rw [List.append_assoc]
    exact account.balanced.trans (taken.append_left destroyed)

/-- The objects can be counted by what has become of them. -/
theorem total_eq
    (account : ObjectAccount total created destroyed live) :
    total = destroyed.length + live.length := by
  have lengths := account.balanced.length_eq
  rw [account.numbered, List.length_range, List.length_append] at lengths
  exact lengths

theorem destroyed_nodup
    (account : ObjectAccount total created destroyed live) :
    destroyed.Nodup := by
  have nodup : (destroyed ++ live).Nodup := by
    rw [← account.balanced.nodup_iff, account.numbered]
    exact List.nodup_range
  exact List.Nodup.of_append_left nodup

theorem destroyed_perm
    (account : ObjectAccount total created destroyed []) :
    destroyed.Perm (List.range total) := by
  have balanced := account.balanced.symm
  rw [List.append_nil, account.numbered] at balanced
  exact balanced

end ObjectAccount

/-- Every job begun is open as it began, or settled. -/
structure JobAccount {Kind Event : Type*}
    (begun : Kind → List Event) (Settled : List Event → Prop)
    (total : Nat) (openJobs : List (Nat × Kind))
    (history : Nat → List Event) : Prop where
  distinct : (openJobs.map Prod.fst).Nodup
  underway :
    ∀ job kind, (job, kind) ∈ openJobs →
      job < total ∧ history job = begun kind
  settled :
    ∀ job, job < total → job ∉ openJobs.map Prod.fst → Settled (history job)
  unborn : ∀ job, total ≤ job → history job = []

namespace JobAccount

variable {Kind Event : Type*}
variable {begun : Kind → List Event} {Settled : List Event → Prop}
variable {total : Nat} {openJobs openJobs' : List (Nat × Kind)}
variable {history history' : Nat → List Event}

theorem empty : JobAccount begun Settled 0 [] fun _ => [] where
  distinct := List.nodup_nil
  underway := fun _ _ member => by cases member
  settled := fun _ below => absurd below (Nat.not_lt_zero _)
  unborn := fun _ _ => rfl

theorem perm
    (account : JobAccount begun Settled total openJobs history)
    (moved : openJobs'.Perm openJobs)
    (same : ∀ job, history' job = history job) :
    JobAccount begun Settled total openJobs' history' where
  distinct := (moved.map Prod.fst).nodup_iff.mpr account.distinct
  underway := by
    intro job kind member
    rw [same]
    exact account.underway job kind (moved.mem_iff.mp member)
  settled := by
    intro job below absent
    rw [same]
    apply account.settled job below
    intro present
    exact absent ((moved.map Prod.fst).mem_iff.mpr present)
  unborn := by
    intro job above
    rw [same]
    exact account.unborn job above

/-- A job that ends as soon as it begins. -/
theorem refuse {events : List Event}
    (account : JobAccount begun Settled total openJobs history)
    (settles : Settled events)
    (own : history' total = history total ++ events)
    (same : ∀ job, job ≠ total → history' job = history job) :
    JobAccount begun Settled (total + 1) openJobs history' where
  distinct := account.distinct
  underway := by
    intro job kind member
    have before := account.underway job kind member
    rw [same job (Nat.ne_of_lt before.1)]
    exact ⟨Nat.lt_succ_of_lt before.1, before.2⟩
  settled := by
    intro job below absent
    by_cases isNew : job = total
    · rw [isNew, own, account.unborn total (Nat.le_refl total)]
      exact settles
    · rw [same job isNew]
      exact
        account.settled job
          (Nat.lt_of_le_of_ne (Nat.le_of_lt_succ below) isNew) absent
  unborn := by
    intro job above
    rw [same job (Nat.ne_of_gt above)]
    exact account.unborn job (Nat.le_of_succ_le above)

/-- A job that begins and stays open. -/
theorem submit {kind : Kind}
    (account : JobAccount begun Settled total openJobs history)
    (own : history' total = history total ++ begun kind)
    (same : ∀ job, job ≠ total → history' job = history job)
    (added : openJobs'.Perm ((total, kind) :: openJobs)) :
    JobAccount begun Settled (total + 1) openJobs' history' := by
  have below :
      ∀ job, job ∈ openJobs.map Prod.fst → job < total := by
    intro job member
    rcases List.mem_map.mp member with ⟨⟨job', kind'⟩, present, rfl⟩
    exact (account.underway job' kind' present).1
  have numbers := added.map Prod.fst
  rw [List.map_cons] at numbers
  constructor
  · apply numbers.nodup_iff.mpr
    apply List.nodup_cons.mpr
    constructor
    · intro member
      exact absurd (below total member) (Nat.lt_irrefl total)
    · exact account.distinct
  · intro job other member
    rcases List.mem_cons.mp (added.mem_iff.mp member) with isNew | old
    · cases isNew
      rw [own, account.unborn total (Nat.le_refl total), List.nil_append]
      exact ⟨Nat.lt_succ_self total, rfl⟩
    · have before := account.underway job other old
      rw [same job (Nat.ne_of_lt before.1)]
      exact ⟨Nat.lt_succ_of_lt before.1, before.2⟩
  · intro job belowTotal absent
    have absent' : job ∉ total :: openJobs.map Prod.fst := by
      intro present
      exact absent (numbers.mem_iff.mpr present)
    rw [List.mem_cons, not_or] at absent'
    rw [same job absent'.1]
    apply account.settled job _ absent'.2
    exact Nat.lt_of_le_of_ne (Nat.le_of_lt_succ belowTotal) absent'.1
  · intro job above
    rw [same job (Nat.ne_of_gt above)]
    exact account.unborn job (Nat.le_of_succ_le above)

/-- An open job that ends. -/
theorem settle {job : Nat} {kind : Kind} {events : List Event}
    (account : JobAccount begun Settled total openJobs history)
    (taken : openJobs.Perm ((job, kind) :: openJobs'))
    (settles : Settled (begun kind ++ events))
    (own : history' job = history job ++ events)
    (same : ∀ other, other ≠ job → history' other = history other) :
    JobAccount begun Settled total openJobs' history' := by
  have numbers := taken.map Prod.fst
  rw [List.map_cons] at numbers
  have distinct := List.nodup_cons.mp (numbers.nodup_iff.mp account.distinct)
  have ended :=
    account.underway job kind (taken.mem_iff.mpr List.mem_cons_self)
  constructor
  · exact distinct.2
  · intro other otherKind member
    have different : other ≠ job := by
      intro isJob
      apply distinct.1
      rw [← isJob]
      exact List.mem_map.mpr ⟨(other, otherKind), member, rfl⟩
    rw [same other different]
    exact
      account.underway other otherKind
        (taken.mem_iff.mpr (List.mem_cons_of_mem _ member))
  · intro other below absent
    by_cases isJob : other = job
    · rw [isJob, own, ended.2]
      exact settles
    · rw [same other isJob]
      apply account.settled other below
      intro present
      rcases List.mem_cons.mp (numbers.mem_iff.mp present) with eq | stays
      · exact isJob eq
      · exact absent stays
  · intro other above
    rw [same other (Nat.ne_of_gt (Nat.lt_of_lt_of_le ended.1 above))]
    exact account.unborn other above

/-- With nothing open all jobs are settled. -/
theorem all_settled
    (account : JobAccount begun Settled total [] history)
    {job : Nat} (below : job < total) :
    Settled (history job) :=
  account.settled job below (List.not_mem_nil)

end JobAccount
