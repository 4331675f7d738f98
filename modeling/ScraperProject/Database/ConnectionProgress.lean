import ScraperProject.Database.ConnectionSerial

/-!
Contract: what a single thread gets from the write boundary.

Owns the fact that a call which returns has taken effect once, and that no state of the
locks keeps a call from returning, whoever is inside the boundary or was killed there.

Does not own the serial order.
-/

namespace ScraperProject.Database

open Foundation

variable {Process Thread Call Command State Failure Value : Type} {Reply : Command → Type}

section Threads

variable [DecidableEq Process] [DecidableEq Thread]
  {clients : Clients Process Thread Call Command Reply State Failure Value}
  {engine : Engine Process Thread Call Command Reply State Failure Value} {thread : Thread}
  {phase : Phase Call Command Reply State Failure Value}

/-! ## Once for each return -/

/-- What the notice says to have ended, for one thread. -/
def Notice.endedOf (thread : Thread) :
    Notice Thread Call Failure Value → List (Call × Except Failure Value)
  | .ended other call result => if other = thread then [(call, result)] else []
  | _ => []

/-- What the notice says to return, for one thread. -/
def Notice.returnedOf (thread : Thread) :
    Notice Thread Call Failure Value → List (Call × Except Failure Value)
  | .returned other call result => if other = thread then [(call, result)] else []
  | _ => []

/-- What has ended and not returned yet. -/
def Phase.pending : Phase Call Command Reply State Failure Value →
    List (Call × Except Failure Value)
  | .closing call result | .answered call result => [(call, result)]
  | _ => []

/-- A thread that goes on returns what it had ended, and keeps what it ends. -/
theorem Engine.advance_settles (thread : Thread) (fault : Option Failure) :
    (engine.phases thread).pending ++ (engine.advance clients thread fault).1.endedOf thread =
      (engine.advance clients thread fault).1.returnedOf thread ++
        ((engine.advance clients thread fault).2.phases thread).pending := by
  unfold Engine.advance
  cases isPhase : engine.phases thread with
  | idle => rw [isPhase]; rfl
  | reading | answered | closing | failing =>
      cases fault <;> simp [Notice.endedOf, Notice.returnedOf, Phase.pending]
  | waiting | entered =>
      cases fault with
      | some failure => simp [Notice.endedOf, Notice.returnedOf, Phase.pending]
      | none =>
          dsimp only
          split <;>
            simp [Notice.endedOf, Notice.returnedOf, Phase.pending, isPhase, Engine.inPhase]
  | running call working rest =>
      cases fault <;> cases rest <;>
        simp [Notice.endedOf, Notice.returnedOf, Phase.pending, Engine.inPhase]

/-- The other threads stay where they are, and the notice is not about them. -/
theorem Engine.advance_elsewhere {thread other : Thread} (apart : other ≠ thread)
    (fault : Option Failure) :
    (engine.advance clients thread fault).2.phases other = engine.phases other ∧
      (engine.advance clients thread fault).1.endedOf other = [] ∧
      (engine.advance clients thread fault).1.returnedOf other = [] := by
  unfold Engine.advance
  cases isPhase : engine.phases thread with
  | idle => exact ⟨rfl, rfl, rfl⟩
  | reading | answered | closing | failing =>
      cases fault <;>
        simp [Notice.endedOf, Notice.returnedOf, Engine.inPhase, Engine.withLock, apart,
          Ne.symm apart]
  | waiting | entered =>
      cases fault with
      | some failure => simp [Notice.endedOf, Notice.returnedOf, Engine.inPhase, apart]
      | none =>
          dsimp only
          split <;>
            simp [Notice.endedOf, Notice.returnedOf, Engine.inPhase, Engine.withLock, apart]
  | running call working rest =>
      cases fault <;> cases rest <;>
        simp [Notice.endedOf, Notice.returnedOf, Engine.inPhase, apart, Ne.symm apart]

theorem Engine.move_settles (turn : Turn Process Thread Call Failure) (thread : Thread) :
    ((Engine.move clients turn engine).1.returnedOf thread ++
        ((Engine.move clients turn engine).2.phases thread).pending).Sublist
      ((engine.phases thread).pending ++ (Engine.move clients turn engine).1.endedOf thread) := by
  cases turn with
  | step other fault =>
      by_cases same : thread = other
      · subst same
        have settles : (engine.phases thread).pending ++
              (engine.advance clients thread fault).1.endedOf thread =
            (engine.advance clients thread fault).1.returnedOf thread ++
              ((engine.advance clients thread fault).2.phases thread).pending :=
          Engine.advance_settles thread fault
        simp only [Engine.move, settles]
        exact List.Sublist.refl _
      · obtain ⟨phases, ended, returned⟩ :
            (engine.advance clients other fault).2.phases thread = engine.phases thread ∧
              (engine.advance clients other fault).1.endedOf thread = [] ∧
              (engine.advance clients other fault).1.returnedOf thread = [] :=
          Engine.advance_elsewhere same fault
        simp only [Engine.move, phases, ended, returned, List.nil_append, List.append_nil]
        exact List.Sublist.refl _
  | kill process =>
      simp only [Engine.move, Notice.returnedOf, Notice.endedOf, List.nil_append, List.append_nil,
        Engine.killed]
      split
      · exact List.nil_sublist _
      · exact List.Sublist.refl _
  | start other call =>
      unfold Engine.move
      dsimp only
      split
      · next isPhase =>
        by_cases same : thread = other
        · subst same
          simp only [Notice.returnedOf, Notice.endedOf, Engine.inPhase_self, isPhase]
          unfold Engine.begin
          split <;> exact List.Sublist.refl _
        · rw [Engine.inPhase_other same]
          simp only [Notice.returnedOf, Notice.endedOf, List.nil_append, List.append_nil]
          exact List.Sublist.refl _
      · simp only [Notice.returnedOf, Notice.endedOf, List.nil_append, List.append_nil]
        exact List.Sublist.refl _

/-- The calls of one thread that took effect, in order, with their results. -/
def endedBy (thread : Thread)
    (past : List (Turn Process Thread Call Failure × Notice Thread Call Failure Value)) :
    List (Call × Except Failure Value) :=
  ((effects past).filter fun done => done.1 = thread).map Prod.snd

omit [DecidableEq Process] in
theorem endedBy_snoc (thread : Thread)
    (past : List (Turn Process Thread Call Failure × Notice Thread Call Failure Value))
    (event : Turn Process Thread Call Failure × Notice Thread Call Failure Value) :
    endedBy thread (past ++ [event]) = endedBy thread past ++ event.2.endedOf thread := by
  unfold endedBy effects
  rw [List.filterMap_append, List.filter_append, List.map_append]
  congr 1
  cases notice : event.2 with
  | ended other call result =>
      by_cases own : other = thread <;> simp [notice, Notice.effect, Notice.endedOf, own]
  | silent | returned | failed => simp [notice, Notice.effect, Notice.endedOf]

/-- The calls of one thread that returned, in order, with their results. -/
def returnedBy (thread : Thread)
    (past : List (Turn Process Thread Call Failure × Notice Thread Call Failure Value)) :
    List (Call × Except Failure Value) :=
  past.flatMap fun event => event.2.returnedOf thread

variable (clients)

/-- Each return of a thread is that of a call which took effect, another one for each
return, in the same order; a killed process may lose returns. -/
theorem returned_took_effect (start : State) (turns : List (Turn Process Thread Call Failure))
    (thread : Thread) :
    (returnedBy thread
        (History.events (Engine.move clients) (Engine.quiet start) turns)).Sublist
      (endedBy thread (History.events (Engine.move clients) (Engine.quiet start) turns)) := by
  have settled := @History.history_invariant _ _ _ (Engine.move clients) (fun past engine =>
    (returnedBy thread past ++ (engine.phases thread).pending).Sublist (endedBy thread past))
    ?_ (Engine.quiet start) (List.nil_sublist _) turns
  · exact (List.sublist_append_left _ _).trans settled
  · intro past turn engine sublist
    have one := @Engine.move_settles _ _ _ _ _ _ _ _ _ _ clients engine turn thread
    rw [endedBy_snoc]
    unfold returnedBy at sublist ⊢
    simp only [List.flatMap_append, List.flatMap_cons, List.flatMap_nil, List.append_nil,
      List.append_assoc]
    refine (List.Sublist.append_left one _).trans ?_
    rw [← List.append_assoc]
    exact List.Sublist.append_right sublist _

/-! ## No deadlock -/

variable {clients}

/-- Some threads go on, one statement each, until the other state. -/
def Engine.CanReach (clients : Clients Process Thread Call Command Reply State Failure Value)
    (engine later : Engine Process Thread Call Command Reply State Failure Value) : Prop :=
  ∃ threads : List Thread,
    later = History.after (Engine.move clients) engine (threads.map fun thread => .step thread none)

theorem Engine.CanReach.step {later : Engine Process Thread Call Command Reply State Failure Value}
    (thread : Thread) (rest : (engine.advance clients thread none).2.CanReach clients later) :
    engine.CanReach clients later := by
  obtain ⟨threads, same⟩ := rest
  exact ⟨thread :: threads, same⟩

theorem Engine.CanReach.trans
    {middle later : Engine Process Thread Call Command Reply State Failure Value}
    (first : engine.CanReach clients middle) (second : middle.CanReach clients later) :
    engine.CanReach clients later := by
  obtain ⟨threads, rfl⟩ := first
  obtain ⟨others, rfl⟩ := second
  refine ⟨threads ++ others, ?_⟩
  rw [List.map_append, History.after_append]

/-- The thread has left the boundary, both locks are free and no other thread has moved. -/
structure Engine.Left (clients : Clients Process Thread Call Command Reply State Failure Value)
    (thread : Thread) (engine later : Engine Process Thread Call Command Reply State Failure Value) :
    Prop where
  idle : later.phases thread = .idle
  lock : later.locks (clients.process thread) = none
  writer : later.writer = none
  others : ∀ other ≠ thread, later.phases other = engine.phases other

omit [DecidableEq Process] [DecidableEq Thread] in
theorem Engine.Left.of_same
    {middle later : Engine Process Thread Call Command Reply State Failure Value}
    (left : middle.Left clients thread later)
    (same : ∀ other ≠ thread, middle.phases other = engine.phases other) :
    engine.Left clients thread later :=
  { left with others := fun other apart => (left.others other apart).trans (same other apart) }

theorem Engine.left_of_closing {call : Call} {result : Except Failure Value}
    (isPhase : engine.phases thread = .closing call result) (free : engine.writer = none) :
    engine.Left clients thread (engine.advance clients thread none).2 := by
  unfold Engine.advance
  rw [isPhase]
  exact
    { idle := if_pos rfl
      lock := if_pos rfl
      writer := free
      others := fun other apart => if_neg apart }

theorem Engine.left_of_failing {call : Call} {failure : Failure}
    (isPhase : engine.phases thread = .failing call failure) (free : engine.writer = none) :
    engine.Left clients thread (engine.advance clients thread none).2 := by
  unfold Engine.advance
  rw [isPhase]
  exact
    { idle := if_pos rfl
      lock := if_pos rfl
      writer := free
      others := fun other apart => if_neg apart }

/-- A transaction ends: its body has no endless run. -/
theorem Engine.leaves_of_running {call : Call} {working : State}
    (rest : Program Command Reply Failure Value)
    (isPhase : engine.phases thread = .running call working rest) :
    ∃ later, engine.CanReach clients later ∧ engine.Left clients thread later := by
  have elsewhere : ∀ other ≠ thread,
      (engine.advance clients thread none).2.phases other = engine.phases other :=
    fun other apart => (Engine.advance_elsewhere apart none).1
  induction rest generalizing engine working with
  | done value =>
      have closing : ((engine.advance clients thread none).2.phases thread) =
          .closing call (.ok value) := by
        unfold Engine.advance
        rw [isPhase]
        exact if_pos rfl
      have free : (engine.advance clients thread none).2.writer = none := by
        unfold Engine.advance
        rw [isPhase]
      exact ⟨_, .step thread (.step thread ⟨[], rfl⟩),
        (Engine.left_of_closing closing free).of_same elsewhere⟩
  | raised failure =>
      have closing : ((engine.advance clients thread none).2.phases thread) =
          .closing call (.error failure) := by
        unfold Engine.advance
        rw [isPhase]
        exact if_pos rfl
      have free : (engine.advance clients thread none).2.writer = none := by
        unfold Engine.advance
        rw [isPhase]
      exact ⟨_, .step thread (.step thread ⟨[], rfl⟩),
        (Engine.left_of_closing closing free).of_same elsewhere⟩
  | issue command next inductionHypothesis =>
      have running : (engine.advance clients thread none).2.phases thread =
          .running call (clients.perform command working).2
            (next (clients.perform command working).1) := by
        unfold Engine.advance
        rw [isPhase]
        exact if_pos rfl
      obtain ⟨later, reaches, left⟩ := inductionHypothesis _ running fun other apart =>
        (Engine.advance_elsewhere apart none).1
      exact ⟨later, .step thread reaches, left.of_same elsewhere⟩

theorem Engine.Coherent.reached (coherent : engine.Coherent clients)
    {later : Engine Process Thread Call Command Reply State Failure Value}
    (reaches : engine.CanReach clients later) : later.Coherent clients := by
  obtain ⟨threads, rfl⟩ := reaches
  exact History.after_invariant (Engine.move clients) (fun turn _ holds => holds.move turn)
    coherent _

/-- A thread inside the boundary leaves it, if no other one is in a transaction. -/
theorem Engine.Coherent.leaves (coherent : engine.Coherent clients)
    (inside : (engine.phases thread).holdsLock = true)
    (alone : ∀ other, engine.writer = some other → other = thread) :
    ∃ later, engine.CanReach clients later ∧ engine.Left clients thread later := by
  have free : (engine.phases thread).isWriting = false → engine.writer = none := by
    intro idle
    cases holder : engine.writer with
    | none => rfl
    | some other =>
        have writes := (coherent.writing other).mp holder
        rw [alone other holder, idle] at writes
        cases writes
  cases isPhase : engine.phases thread with
  | entered call body =>
      rw [isPhase] at free
      have running : (engine.advance clients thread none).2.phases thread =
          .running call engine.committed body := by
        unfold Engine.advance
        rw [isPhase]
        dsimp only
        rw [free rfl]
        exact if_pos rfl
      obtain ⟨later, reaches, left⟩ := Engine.leaves_of_running body running
      exact ⟨later, .step thread reaches,
        left.of_same fun other apart => (Engine.advance_elsewhere apart none).1⟩
  | running call working rest => exact Engine.leaves_of_running rest isPhase
  | closing call result =>
      rw [isPhase] at free
      exact ⟨_, .step thread ⟨[], rfl⟩, Engine.left_of_closing isPhase (free rfl)⟩
  | failing call failure =>
      rw [isPhase] at free
      exact ⟨_, .step thread ⟨[], rfl⟩, Engine.left_of_failing isPhase (free rfl)⟩
  | idle | reading | waiting | answered =>
      rw [isPhase] at inside
      cases inside

/-- Whatever a thread waits for, the holder can be brought to leave: first the open
transaction, then the holder of the lock of its process. -/
theorem Engine.Coherent.clears (coherent : engine.Coherent clients) (thread : Thread) :
    ∃ later, engine.CanReach clients later ∧ later.Coherent clients ∧ later.writer = none ∧
      (later.phases thread = .idle ∨ (later.phases thread = engine.phases thread ∧
        ∀ other, later.locks (clients.process thread) = some other → other = thread)) := by
  obtain ⟨middle, reaches, free, settled⟩ : ∃ middle, engine.CanReach clients middle ∧
      middle.writer = none ∧
        (middle.phases thread = .idle ∨ middle.phases thread = engine.phases thread) := by
    cases holder : engine.writer with
    | none => exact ⟨engine, ⟨[], rfl⟩, holder, Or.inr rfl⟩
    | some writer =>
        have writes := (coherent.writing writer).mp holder
        obtain ⟨middle, reaches, left⟩ := coherent.leaves (Phase.holdsLock_of_isWriting writes)
          fun other same => Option.some.inj (same.symm.trans holder)
        refine ⟨middle, reaches, left.writer, ?_⟩
        by_cases own : thread = writer
        · exact Or.inl (own ▸ left.idle)
        · exact Or.inr (left.others thread own)
  have coherentMiddle := coherent.reached reaches
  cases holder : middle.locks (clients.process thread) with
  | none =>
      refine ⟨middle, reaches, coherentMiddle, free, settled.imp_right fun same => ⟨same, ?_⟩⟩
      simp [holder]
  | some holding =>
      obtain ⟨sameProcess, inside⟩ := (coherentMiddle.locked _ holding).mp holder
      by_cases own : holding = thread
      · refine ⟨middle, reaches, coherentMiddle, free, settled.imp_right fun same => ⟨same, ?_⟩⟩
        intro other same
        exact (Option.some.inj (same.symm.trans holder)).trans own
      · obtain ⟨later, further, left⟩ := coherentMiddle.leaves inside (by simp [free])
        refine ⟨later, reaches.trans further, coherentMiddle.reached further, left.writer, ?_⟩
        rw [left.others thread (Ne.symm own)]
        refine settled.imp_right fun same => ⟨same, ?_⟩
        rw [← sameProcess, left.lock]
        simp

/-- There is no deadlock: in every state that threads and processes can reach, each call
can come to its end, without the death of any process. -/
theorem every_call_can_return (start : State) (turns : List (Turn Process Thread Call Failure))
    (thread : Thread) :
    ∃ later, (History.after (Engine.move clients) (Engine.quiet start) turns).CanReach clients
      later ∧ later.phases thread = .idle := by
  have coherent := (committed_is_serial clients start turns).1
  generalize History.after (Engine.move clients) (Engine.quiet start) turns = engine at coherent
  obtain ⟨middle, reaches, holds, free, isIdle | ⟨same, own⟩⟩ := coherent.clears thread
  · exact ⟨middle, reaches, isIdle⟩
  cases inside : (middle.phases thread).holdsLock with
  | true =>
      obtain ⟨later, further, left⟩ := holds.leaves inside (by simp [free])
      exact ⟨later, reaches.trans further, left.idle⟩
  | false =>
      cases isPhase : middle.phases thread with
      | idle => exact ⟨middle, reaches, isPhase⟩
      | answered call result =>
          refine ⟨_, reaches.trans (.step thread ⟨[], rfl⟩), ?_⟩
          simp only [List.map_nil, History.after_nil]
          unfold Engine.advance
          rw [isPhase]
          exact if_pos rfl
      | reading call answer =>
          have answered : (middle.advance clients thread none).2.phases thread =
              .answered call (answer middle.committed) := by
            unfold Engine.advance
            rw [isPhase]
            exact if_pos rfl
          refine ⟨_, reaches.trans (.step thread (.step thread ⟨[], rfl⟩)), ?_⟩
          simp only [List.map_nil, History.after_nil]
          generalize (middle.advance clients thread none).2 = last at answered
          unfold Engine.advance
          rw [answered]
          exact if_pos rfl
      | waiting call body =>
          have unlocked : middle.locks (clients.process thread) = none := by
            cases holder : middle.locks (clients.process thread) with
            | none => rfl
            | some other =>
                have isHolder := ((holds.locked _ other).mp holder).2
                rw [own other holder, inside] at isHolder
                cases isHolder
          have entered : (middle.advance clients thread none).2.phases thread =
              .entered call body := by
            unfold Engine.advance
            rw [isPhase]
            dsimp only
            rw [unlocked]
            exact if_pos rfl
          have stillFree : (middle.advance clients thread none).2.writer = none := by
            unfold Engine.advance
            rw [isPhase]
            dsimp only
            rw [unlocked]
            exact free
          obtain ⟨later, further, left⟩ := (holds.advance thread none).leaves
            (by rw [entered]; rfl) (by simp [stillFree])
          exact ⟨later, reaches.trans (.step thread further), left.idle⟩
      | entered | running | closing | failing =>
          rw [isPhase] at inside
          cases inside

end Threads

end ScraperProject.Database
