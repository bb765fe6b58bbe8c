import GoZond.State.Journal

/-!
What a collaborator of the engine does to the StateDB.

The interpreter, a precompile, the block context's `Transfer` and `ApplyMessage` reach the state
only through the `StateDB` interface. An `Eff` is the sequence of calls one of them makes: writes,
and nested frames that take a snapshot, run, and may revert to it (a sub-call). Since the
collaborator is deterministic, the calls it makes are a function of the state it starts from,
so quantifying over every `Eff` covers every such collaborator.

The result of this module is the snapshot law of §4.2 over whole runs: whatever sequence of calls
follows a snapshot, reverting to it restores the StateDB exactly (`Eff.run_revert`).
-/

namespace GoZond

/-- The `StateDB` calls a collaborator makes. -/
inductive Eff
  | done
  | mutate (m : Mutation) (k : Eff)
  | frame (body : Eff) (revert : Bool) (k : Eff)

namespace Eff

/-- Carry the calls out. -/
def run : Eff → StateDB → StateDB
  | done, s => s
  | mutate m k, s => k.run (s.apply m)
  | frame body revert k, s =>
    let s' := body.run s
    k.run (if revert then s'.revertToSnapshot s.snapshot else s')

/-- The calls of `e`, then those of `e'`. -/
def seq : Eff → Eff → Eff
  | done, e' => e'
  | mutate m k, e' => mutate m (k.seq e')
  | frame body revert k, e' => frame body revert (k.seq e')

lemma run_seq (e e' : Eff) (s : StateDB) : (e.seq e').run s = e'.run (e.run s) := by
  induction e generalizing s with
  | done => rfl
  | mutate m k ih => exact ih _
  | frame body revert k _ ihk => exact ihk _

/-- The writes of a list, in order. -/
def ofList : List Mutation → Eff
  | [] => done
  | m :: ms => mutate m (ofList ms)

@[simp] lemma run_done (s : StateDB) : done.run s = s := rfl

@[simp] lemma run_mutate (m : Mutation) (k : Eff) (s : StateDB) :
    (mutate m k).run s = k.run (s.apply m) := rfl

@[simp] lemma ofList_nil : ofList [] = done := rfl

@[simp] lemma ofList_cons (m : Mutation) (ms : List Mutation) :
    ofList (m :: ms) = mutate m (ofList ms) := rfl

end Eff

namespace StateDB

/-- `s'` is reached from `s` by journaled calls: reverting `s'` to the snapshot taken at `s`
gives `s` back. -/
def Extends (s s' : StateDB) : Prop := s'.revertToSnapshot s.snapshot = s

namespace Extends

variable {s s' s'' : StateDB}

lemma refl (s : StateDB) : Extends s s := s.revertToSnapshot_snapshot

lemma snapshot_le (h : Extends s s') : s.snapshot ≤ s'.snapshot := by
  have := congrArg StateDB.snapshot h
  rw [snapshot_revertToSnapshot] at this
  omega

lemma revert_eq (h : Extends s s') {n : Nat} (hn : n ≤ s.snapshot) :
    s'.revertToSnapshot n = s.revertToSnapshot n := by
  rw [← revertToSnapshot_revertToSnapshot s' hn, h]

lemma txIndex_eq (h : Extends s s') : s'.txIndex = s.txIndex :=
  (s'.txIndex_revertToSnapshot _).symm.trans (congrArg StateDB.txIndex h)

lemma trans (h : Extends s s') (h' : Extends s' s'') : Extends s s'' := by
  unfold Extends
  rw [h'.revert_eq h.snapshot_le, h]

lemma apply (s : StateDB) (m : Mutation) : Extends s (s.apply m) :=
  (s.revertToSnapshot_apply m (Nat.le_refl _)).trans (refl s)

lemma revert (h : Extends s s') {n : Nat} (hn : s.snapshot ≤ n) :
    Extends s (s'.revertToSnapshot n) := by
  unfold Extends
  rw [revertToSnapshot_revertToSnapshot s' hn, h]

lemma accounts_eq (h : Extends s s') {a : Address}
    (ha : a ∉ s'.journal.filterMap JournalEntry.dirty) :
    s'.world.accounts a = s.world.accounts a := by
  have hrev := congrArg (fun t => t.world.accounts a) h
  simp only [revertToSnapshot] at hrev
  rw [← hrev, JournalEntry.foldl_undo_accounts _ _
    fun hm => ha (((s'.journal.take_sublist _).filterMap _).subset hm)]

lemma unmarked_finalise (h : Extends s s') (hs : s.world.Unmarked) (d : Bool) :
    (s'.finalise d).world.Unmarked := by
  intro a o ho
  simp only [finalise] at ho
  split at ho
  · rename_i _ ho'
    split_ifs at ho with hc
    cases ho
    by_contra hm
    have hnd : a ∉ s'.journal.filterMap JournalEntry.dirty :=
      fun hd => hc ⟨hd, .inl (by simpa using hm)⟩
    exact hm (hs a _ ((h.accounts_eq hnd).symm.trans ho'))
  · cases ho

end Extends

end StateDB

namespace Eff

lemma extends_run (e : Eff) (s : StateDB) : s.Extends (e.run s) := by
  induction e generalizing s with
  | done => exact .refl s
  | mutate m k ih => exact (StateDB.Extends.apply s m).trans (ih _)
  | frame body revert k ihb ihk =>
    have hb :
        s.Extends (if revert then (body.run s).revertToSnapshot s.snapshot else body.run s) := by
      split
      · exact (ihb s).revert (Nat.le_refl _)
      · exact ihb s
    exact hb.trans (ihk _)

/-- **The snapshot law over runs.** Whatever calls follow a snapshot, reverting to it restores
the StateDB exactly. -/
theorem run_revert (e : Eff) (s : StateDB) : (e.run s).revertToSnapshot s.snapshot = s :=
  extends_run e s

end Eff

end GoZond
