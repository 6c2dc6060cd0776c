import Rollup.Proofs.Pass.Account

/-!
# When marking ends

A mark reaches only the last row of an id.  An unprocessed row behind which another row
has the same id is therefore never marked, and if its id is confirmed whenever it is
offered, it is offered for ever.  Where no such row is left, every batch takes at least
one row out of the candidates, whatever the hooks confirm, and marking ends.
-/

namespace Rollup

/-- Every unprocessed row is the last one with its id, so a mark reaches it. -/
def Markable (rows : List Row) : Prop :=
  rows.Pairwise fun earlier later => earlier.processed = false → earlier.id ≠ later.id

instance (rows : List Row) : Decidable (Markable rows) :=
  inferInstanceAs (Decidable (rows.Pairwise _))

/-- The row, marked if its id is among some ids. -/
def Row.markedIn (ids : List JobId) (row : Row) : Row :=
  if row.id ∈ ids then row.marked else row

theorem Row.markedIn_of_not_mem {ids : List JobId} {row : Row} (absent : row.id ∉ ids) :
    row.markedIn ids = row :=
  if_neg absent

@[simp] theorem Row.id_markedIn (ids : List JobId) (row : Row) :
    (row.markedIn ids).id = row.id := by
  rw [markedIn]
  split <;> rfl

@[simp] theorem Row.processed_markedIn (ids : List JobId) (row : Row) :
    (row.markedIn ids).processed = (decide (row.id ∈ ids) || row.processed) := by
  rw [markedIn]
  split <;> rename_i among <;> simp [among, marked]

/-- Marks of one id after the other. -/
theorem Row.markedIn_comp (id : JobId) (rest : List JobId) :
    Row.markedIn rest ∘ Row.markedIn [id] = Row.markedIn (id :: rest) := by
  funext row
  rw [Function.comp_apply]
  by_cases isFirst : row.id = id
  · rw [markedIn.eq_def (id :: rest), if_pos (by simp [isFirst])]
    rw [markedIn.eq_def [id], if_pos (by simp [isFirst]), markedIn]
    split <;> rfl
  · rw [markedIn_of_not_mem (show row.id ∉ [id] by simpa using isFirst)]
    simp [markedIn, isFirst]

/-- Marking a processed row again changes nothing. -/
theorem Row.marked_of_processed {row : Row} (processed : row.processed = true) :
    row.marked = row := by
  cases row
  cases processed
  rfl

/-! ## Rows that a mark reaches -/

namespace Markable

theorem of_processed {rows : List Row} (processed : ∀ row ∈ rows, row.processed = true) :
    Markable rows := by
  apply List.Pairwise.imp_of_mem (R := fun _ _ => True)
  · intro earlier later member _ _ unprocessed
    rw [processed earlier member] at unprocessed
    cases unprocessed
  · exact List.pairwise_of_forall fun _ _ => trivial

/-- Where ids are distinct, every row is the last one with its id. -/
theorem of_nodup {rows : List Row} (unique : (rows.map Row.id).Nodup) : Markable rows := by
  apply List.Pairwise.imp _ (List.pairwise_map.mp unique)
  exact fun different _ => different

/-- Where a mark reaches every unprocessed row, marking the last row of an id is
marking every row of it. -/
theorem changeLast_marked {rows : List Row} (markable : Markable rows) (id : JobId) :
    changeLast id Row.marked rows = rows.map (Row.markedIn [id]) := by
  induction rows with
  | nil => rfl
  | cons row rest ih =>
      obtain ⟨reached, markableRest⟩ := List.pairwise_cons.mp markable
      rw [changeLast, List.map_cons, ← ih markableRest]
      split
      · rename_i later
        obtain ⟨other, member, rfl⟩ := List.mem_map.mp later
        have unchanged : row.markedIn [other.id] = row := by
          rw [Row.markedIn]
          split
          · rename_i among
            apply Row.marked_of_processed
            apply eq_true_of_ne_false
            intro unprocessed
            exact reached other member unprocessed (List.mem_singleton.mp among)
          · rfl
        rw [unchanged]
      · rename_i last
        rw [changeLast_of_not_mem _ last]
        split
        · rename_i equal
          simp [Row.markedIn, equal]
        · rename_i different
          simp [Row.markedIn, different]

/-- Marking leaves behind rows that a mark reaches. -/
theorem map_markedIn {rows : List Row} (markable : Markable rows) (ids : List JobId) :
    Markable (rows.map (Row.markedIn ids)) := by
  apply List.pairwise_map.mpr
  apply markable.imp
  intro earlier later reached unprocessed
  rw [Row.processed_markedIn, Bool.or_eq_false_iff] at unprocessed
  rw [Row.id_markedIn, Row.id_markedIn]
  exact reached unprocessed.2

/-- Marking the last row of each of some ids is marking every row of them. -/
theorem foldl_changeLast_marked {rows : List Row} (markable : Markable rows)
    (ids : List JobId) :
    ids.foldl (fun rows id => changeLast id Row.marked rows) rows =
      rows.map (Row.markedIn ids) := by
  induction ids generalizing rows with
  | nil =>
      have unmarked : ∀ row : Row, row.markedIn [] = row :=
        fun row => Row.markedIn_of_not_mem List.not_mem_nil
      exact (List.map_id'' unmarked rows).symm
  | cons id rest ih =>
      rw [List.foldl_cons, markable.changeLast_marked id, ih (markable.map_markedIn [id]),
        List.map_map, Row.markedIn_comp]

/-- A mark that is confined to the last row of an id makes no hidden row reachable. -/
theorem of_changeLast {rows : List Row} (id : JobId)
    (markable : Markable (changeLast id Row.marked rows)) : Markable rows := by
  induction rows with
  | nil => exact .nil
  | cons row rest ih =>
      rw [changeLast] at markable
      split at markable
      · obtain ⟨reached, markableRest⟩ := List.pairwise_cons.mp markable
        refine .cons ?_ (ih markableRest)
        intro later member unprocessed equal
        have known : later.id ∈ (changeLast id Row.marked rest).map Row.id := by
          rw [map_changeLast id Row.marked fun _ => rfl]
          exact List.mem_map_of_mem member
        obtain ⟨changed, changedMember, same⟩ := List.mem_map.mp known
        exact reached changed changedMember unprocessed (equal.trans same.symm)
      · rename_i last
        split at markable
        · rename_i equal
          refine .cons ?_ (List.pairwise_cons.mp markable).2
          intro later member _ same
          apply last
          rw [← equal, same]
          exact List.mem_map_of_mem member
        · exact markable

end Markable

namespace Pass

namespace Replay

/-! ## One batch -/

theorem rows_markAll {rows : List Row} (markable : Markable rows) (resolver : Resolver)
    (ids : List JobId) :
    (markAll ⟨rows, resolver⟩ ids).rows = rows.map (Row.markedIn ids) := by
  rw [markAll_eq]
  exact markable.foldl_changeLast_marked ids

/-- After a batch the candidates are those whose ids were not in it, whatever was
confirmed. -/
theorem candidates_markAll {roster : Roster} (markable : Markable roster.rows)
    (ids confirmed declined : List JobId) :
    candidates (markAll roster (ids.filter (· ∈ confirmed)))
        ((ids.filter (· ∉ confirmed)).reverse ++ declined) =
      (candidates roster declined).filter fun row => row.id ∉ ids := by
  have same : ∀ row : Row,
      (decide ((row.markedIn (ids.filter (· ∈ confirmed))).id ∉
          (ids.filter (· ∉ confirmed)).reverse ++ declined) &&
        !(row.markedIn (ids.filter (· ∈ confirmed))).processed) =
      (decide (row.id ∉ ids) && (decide (row.id ∉ declined) && !row.processed)) := by
    intro row
    by_cases offered : row.id ∈ ids <;> by_cases isConfirmed : row.id ∈ confirmed <;>
      simp [offered, isConfirmed]
  simp only [candidates, Roster.unprocessed, rows_markAll markable, List.filter_map,
    List.filter_filter, Function.comp_def, same]
  -- The rows that remain were not offered, so they were not marked either.
  refine (List.map_congr_left ?_).trans (List.map_id _)
  intro row member
  have kept := (List.mem_filter.mp member).2
  rw [Bool.and_eq_true, decide_eq_true_eq] at kept
  apply Row.markedIn_of_not_mem
  intro isConfirmed
  exact kept.1 (List.mem_filter.mp isConfirmed).1

theorem length_candidates_le (roster : Roster) (declined : List JobId) :
    (candidates roster declined).length ≤ roster.rows.length :=
  Nat.le_trans (List.length_filter_le _ _) (List.length_filter_le _ _)

/-- A batch that offers something takes a candidate away. -/
theorem length_candidates_lt {roster : Roster} (markable : Markable roster.rows)
    {batchSize : Nat} (declined confirmed : List JobId)
    (offers : nextBatch batchSize roster declined ≠ []) :
    let ids := (nextBatch batchSize roster declined).map Prod.fst
    (candidates (markAll roster (ids.filter (· ∈ confirmed)))
      ((ids.filter (· ∉ confirmed)).reverse ++ declined)).length <
        (candidates roster declined).length := by
  intro ids
  rw [candidates_markAll markable]
  apply List.length_filter_lt_length_iff_exists.mpr
  obtain ⟨offer, member⟩ := List.exists_mem_of_ne_nil _ offers
  obtain ⟨row, taken, rfl⟩ := List.mem_map.mp member
  refine ⟨row, List.mem_of_mem_take taken, ?_⟩
  have offered : row.id ∈ ids := List.mem_map_of_mem member
  simpa using offered

/-- Marks leave a hidden unprocessed row hidden. -/
theorem markable_of_markAll {roster : Roster} {ids : List JobId}
    (markable : Markable (markAll roster ids).rows) : Markable roster.rows := by
  induction ids generalizing roster with
  | nil => exact markable
  | cons id rest ih =>
      apply Markable.of_changeLast id
      exact ih markable

/-- As long as a row is hidden there is something to offer. -/
theorem nextBatch_ne_nil {roster : Roster} {batchSize : Nat} (positive : 0 < batchSize)
    (hidden : ¬ Markable roster.rows) : nextBatch batchSize roster [] ≠ [] := by
  intro silent
  apply hidden
  apply Markable.of_processed
  intro row member
  rw [nextBatch, List.map_eq_nil_iff, List.take_eq_nil_iff] at silent
  rcases silent with impossible | none
  · exact absurd impossible (Nat.ne_of_gt positive)
  · have passed := List.filter_eq_nil_iff.mp none row
    apply eq_true_of_ne_false
    intro unprocessed
    apply passed
    · simp [Roster.unprocessed, member, unprocessed]
    · simp

/-! ## All batches -/

variable {σ : Type} {hooks : Hooks σ}

/-- A batch that is answered: the confirmed ids are marked and the others declined. -/
theorem markRows_succ {batchSize : Nat} {declined confirmed : List JobId}
    {replay : Replay σ} {after : σ} (fuel : Nat)
    (offers : nextBatch batchSize replay.roster declined ≠ [])
    (answered : hooks.markProcessed replay.hooks
      (nextBatch batchSize replay.roster declined) = (.ok confirmed, after)) :
    let batch := nextBatch batchSize replay.roster declined
    let ids := batch.map Prod.fst
    markRows hooks batchSize (fuel + 1) declined replay =
      markRows hooks batchSize fuel ((ids.filter (· ∉ confirmed)).reverse ++ declined)
        ⟨markAll replay.roster (ids.filter (· ∈ confirmed)), after,
          replay.transcript ++ [.markProcessed batch (.ok confirmed)]⟩ := by
  intro batch ids
  rw [markRows]
  simp only [offers, if_false, exchange, answered]
  rfl

theorem nextBatch_congr {left right : Roster} (rows : left.rows = right.rows) (batchSize : Nat)
    (declined : List JobId) :
    nextBatch batchSize left declined = nextBatch batchSize right declined := by
  simp only [nextBatch, candidates, Roster.unprocessed, rows]

/-- Where there is nothing to offer, marking makes no call. -/
theorem markRows_of_nothing {batchSize : Nat}
    (nothing : nextBatch batchSize replay.roster [] = []) (fuel : Nat) :
    (markRows hooks batchSize fuel [] replay).2 = replay := by
  cases fuel with
  | zero => rfl
  | succ fuel =>
      rw [markRows]
      simp only [nothing, if_true]

/-- Where a mark reaches every unprocessed row, marking ends after no more batches than
there are candidates, whatever the hooks confirm, as long as they answer in the states that
they come to. -/
theorem markRows_ends {usual : σ → Prop}
    (answers : ∀ state, usual state → ∀ batch, ∃ confirmed after,
      hooks.markProcessed state batch = (.ok confirmed, after) ∧ usual after)
    (batchSize : Nat) {fuel : Nat} {declined : List JobId} {replay : Replay σ}
    (begins : usual replay.hooks) (markable : Markable replay.roster.rows)
    (enough : (candidates replay.roster declined).length < fuel) :
    (markRows hooks batchSize fuel declined replay).1 = .ok () ∧
      (markRows hooks batchSize fuel declined replay).2.transcript.length ≤
        replay.transcript.length + (candidates replay.roster declined).length := by
  induction fuel generalizing declined replay with
  | zero => exact absurd enough (Nat.not_lt_zero _)
  | succ fuel ih =>
      by_cases silent : nextBatch batchSize replay.roster declined = []
      · rw [markRows]
        simp only [silent, if_true]
        exact ⟨trivial, Nat.le_add_right _ _⟩
      · obtain ⟨confirmed, after, answered, goesOn⟩ := answers replay.hooks begins _
        have fewer := length_candidates_lt markable declined confirmed silent
        rw [markRows_succ fuel silent answered]
        generalize nextBatch batchSize replay.roster declined = batch at fewer ⊢
        dsimp only at fewer ⊢
        generalize markedEq : markAll replay.roster
          ((batch.map Prod.fst).filter (· ∈ confirmed)) = marked at fewer ⊢
        have markableAfter : Markable marked.rows := by
          rw [← markedEq, rows_markAll markable]
          exact markable.map_markedIn _
        obtain ⟨ends, bound⟩ := @ih _ ⟨marked, after, _⟩ goesOn markableAfter
          (Nat.lt_of_lt_of_le fewer (Nat.le_of_lt_succ enough))
        refine ⟨ends, Nat.le_trans bound ?_⟩
        dsimp only
        rw [List.length_append, List.length_singleton]
        omega

/-- Where all offers are confirmed, none is declined. -/
theorem noneDeclined {batch : List Offer} {confirmed : List JobId}
    (all : ∀ offer ∈ batch, offer.1 ∈ confirmed) :
    (batch.map Prod.fst).filter (· ∉ confirmed) = [] := by
  apply List.filter_eq_nil_iff.mpr
  intro id member
  obtain ⟨offer, offered, rfl⟩ := List.mem_map.mp member
  simpa using all offer offered

/-- Where a row is hidden, marking that always confirms has no end. -/
theorem markRows_outOfFuel
    (confirms : ∀ state batch, ∃ confirmed after,
      hooks.markProcessed state batch = (.ok confirmed, after) ∧
        ∀ offer ∈ batch, offer.1 ∈ confirmed)
    {batchSize : Nat} (positive : 0 < batchSize) (fuel : Nat) {replay : Replay σ}
    (hidden : ¬ Markable replay.roster.rows) :
    (markRows hooks batchSize fuel [] replay).1 = .error .outOfFuel := by
  induction fuel generalizing replay with
  | zero => rfl
  | succ fuel ih =>
      have offers := nextBatch_ne_nil positive hidden
      obtain ⟨confirmed, after, answered, all⟩ := confirms replay.hooks
        (nextBatch batchSize replay.roster [])
      rw [markRows_succ fuel offers answered]
      rw [noneDeclined all]
      apply ih
      intro markable
      exact hidden (markable_of_markAll markable)

/-- Marking that has ended, and in which every offer was confirmed, leaves nothing to
offer. -/
theorem markRows_exhausts {batchSize fuel : Nat} {replay : Replay σ}
    (ends : (markRows hooks batchSize fuel [] replay).1 = .ok ())
    (confirms : ∀ batch confirmed, .markProcessed batch (.ok confirmed) ∈
        (markRows hooks batchSize fuel [] replay).2.transcript →
      ∀ offer ∈ batch, offer.1 ∈ confirmed) :
    nextBatch batchSize (markRows hooks batchSize fuel [] replay).2.roster [] = [] := by
  induction fuel generalizing replay with
  | zero => cases ends
  | succ fuel ih =>
      by_cases silent : nextBatch batchSize replay.roster [] = []
      · rw [markRows]
        simp only [silent, if_true]
      · cases answered : hooks.markProcessed replay.hooks
            (nextBatch batchSize replay.roster []) with
        | mk answer after =>
            cases answer with
            | error reason =>
                rw [markRows] at ends
                simp only [silent, if_false, exchange, answered] at ends
                cases ends
            | ok confirmed =>
                rw [markRows_succ fuel silent answered] at ends confirms ⊢
                obtain ⟨marks, speech, _⟩ := markRows_speech hooks batchSize fuel _ _
                have all : ∀ offer ∈ nextBatch batchSize replay.roster [],
                    offer.1 ∈ confirmed := by
                  apply confirms
                  rw [speech.transcript]
                  exact List.mem_append_left _ (List.mem_append_right _ (List.mem_singleton_self _))
                rw [noneDeclined all] at ends confirms ⊢
                exact ih ends confirms

end Replay

/-! ## Marking sound parts -/

section Sound

variable {σ : Type} {hooks : Hooks σ} {progress : Progress σ}

theorem markRows_ends_of_sound (sound : progress.loaded.Sound)
    (markable : Markable progress.loaded.rows)
    (answers : ∀ state batch, ∃ confirmed after,
      hooks.markProcessed state batch = (.ok confirmed, after))
    (batchSize : Nat) {fuel : Nat}
    (enough : progress.loaded.rows.countP (fun row => !row.processed) < fuel) :
    (markRows hooks batchSize fuel [] progress).1 = .ok () ∧
      ((markRows hooks batchSize fuel [] progress).2.trace.filterMap Step.call?).length ≤
        (progress.trace.filterMap Step.call?).length +
          progress.loaded.rows.countP fun row => !row.processed := by
  have countEq : (Replay.candidates progress.loaded.roster []).length =
      progress.loaded.rows.countP fun row => !row.processed := by
    simp [Replay.candidates, Roster.unprocessed, List.countP_eq_length_filter,
      Board.Loaded.roster]
  rw [← countEq] at enough ⊢
  obtain ⟨result, follows⟩ := mirrors_markRows hooks batchSize fuel [] (.refl sound)
  have answersAlways : ∀ state, True → ∀ batch, ∃ confirmed after,
      hooks.markProcessed state batch = (.ok confirmed, after) ∧ True := by
    intro state _ batch
    obtain ⟨confirmed, after, answered⟩ := answers state batch
    exact ⟨confirmed, after, answered, trivial⟩
  obtain ⟨ends, bound⟩ := @Replay.markRows_ends σ hooks _ answersAlways batchSize fuel []
    (.start progress.loaded.roster progress.hooks) trivial markable enough
  refine ⟨result.trans ends, ?_⟩
  rw [follows.trace, List.filterMap_append, Transcript.trace_filterMap_call?,
    List.length_append, List.length_map]
  apply Nat.add_le_add_left
  exact Nat.le_trans bound (Nat.le_of_eq (Nat.zero_add _))

theorem markRows_outOfFuel_of_sound (sound : progress.loaded.Sound)
    (hidden : ¬ Markable progress.loaded.rows)
    (confirms : ∀ state batch, ∃ confirmed after,
      hooks.markProcessed state batch = (.ok confirmed, after) ∧
        ∀ offer ∈ batch, offer.1 ∈ confirmed)
    {batchSize : Nat} (positive : 0 < batchSize) (fuel : Nat) :
    (markRows hooks batchSize fuel [] progress).1 = .error .outOfFuel := by
  have agree := mirrors_markRows hooks batchSize fuel [] (.refl sound)
  exact agree.1.trans (Replay.markRows_outOfFuel confirms positive fuel hidden)

end Sound

/-! ## Marking reached boards -/

/-- Marking ends after no more batches than there are unprocessed rows, under all hooks
that answer, where a mark reaches each of them.  Where one of them is hidden by a later
row of the same id, hooks that confirm what they are offered are asked for ever. -/
theorem markRows_ends_iff_markable {board : Board} (reached : board.Reached)
    {snapshot : Snapshot} (loaded : board.state = some (.ok snapshot)) {batchSize : Nat}
    (positive : 0 < batchSize) :
    (Markable snapshot.rows →
      ∀ {σ : Type} (hooks : Hooks σ) (progress : Progress σ) (fuel : Nat),
        progress.loaded = board.opened snapshot →
        (∀ state batch, ∃ confirmed after,
          hooks.markProcessed state batch = (.ok confirmed, after)) →
        snapshot.rows.countP (fun row => !row.processed) < fuel →
        (markRows hooks batchSize fuel [] progress).1 = .ok () ∧
          ((markRows hooks batchSize fuel [] progress).2.trace.filterMap Step.call?).length ≤
            (progress.trace.filterMap Step.call?).length +
              snapshot.rows.countP fun row => !row.processed) ∧
      (¬ Markable snapshot.rows →
        ∀ {σ : Type} (hooks : Hooks σ) (progress : Progress σ) (fuel : Nat),
          progress.loaded = board.opened snapshot →
          (∀ state batch, ∃ confirmed after,
            hooks.markProcessed state batch = (.ok confirmed, after) ∧
              ∀ offer ∈ batch, offer.1 ∈ confirmed) →
          (markRows hooks batchSize fuel [] progress).1 = .error .outOfFuel) := by
  have opened := reached.sound.loaded loaded
  constructor
  · intro markable σ hooks progress fuel stands answers enough
    have rowsEq : progress.loaded.rows = snapshot.rows := congrArg Board.Loaded.rows stands
    rw [← stands] at opened
    rw [← rowsEq] at markable enough ⊢
    exact markRows_ends_of_sound opened markable answers batchSize enough
  · intro hidden σ hooks progress fuel stands confirms
    have rowsEq : progress.loaded.rows = snapshot.rows := congrArg Board.Loaded.rows stands
    rw [← stands] at opened
    rw [← rowsEq] at hidden
    exact markRows_outOfFuel_of_sound opened hidden confirms positive fuel

/-- Two unprocessed rows of one id: only the second is ever marked. -/
theorem markRows_repeated_id :
    let rows : List Row := [.fresh ⟨1⟩ "build" .success 0, .fresh ⟨1⟩ "test" .success 0]
    let board := ((Board.ofSource ⟨7⟩ (.memory [(⟨7⟩, rows)])
      (.fixed ⟨false, true⟩)).performAll [.load]).2
    let snapshot := (Snapshot.ofRows rows).withStages
    board.Reached ∧ board.state = some (.ok snapshot) ∧ 0 < 2 ∧
      ¬ Markable snapshot.rows ∧
      ∀ fuel, (markRows agreeableHooks 2 fuel []
        ⟨⟨7⟩, board.opened snapshot, (), .ofSink .discard, .start .blank ⟨7⟩, []⟩).1 =
          .error .outOfFuel := by
  intro rows board snapshot
  have reached : board.Reached := ⟨_, _, _, _, rfl⟩
  have loaded : board.state = some (.ok snapshot) := rfl
  have hidden : ¬ Markable snapshot.rows := by decide
  refine ⟨reached, loaded, by decide, hidden, ?_⟩
  intro fuel
  apply (markRows_ends_iff_markable reached loaded (by decide)).2 hidden
  · rfl
  · intro state batch
    refine ⟨batch.map Prod.fst, (), rfl, ?_⟩
    intro offer member
    exact List.mem_map_of_mem member

end Pass

end Rollup
