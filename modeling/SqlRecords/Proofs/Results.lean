/-
This file says what it takes for a computation that can fail to succeed: for one that goes on
from another, with a state or without, for one that is made for every item of a list, and for one
that takes the items of a list in turn.

Computations over a list succeed item by item, so what holds of their results is read off the
items one by one, and a run that fails does so at the first item whose step fails.
-/

import Mathlib.Data.List.Forall2

namespace SqlRecords

variable {Failure First Second State Item Result : Type}

/-! ### One after the other -/

theorem bind_eq_ok_iff (start : Except Failure First) (next : First → Except Failure Second)
    (result : Second) :
    (start >>= next) = .ok result ↔ ∃ value, start = .ok value ∧ next value = .ok result := by
  cases start with
  | error failure =>
    constructor
    · intro equal
      cases equal
    · rintro ⟨value, equal, -⟩
      cases equal
  | ok value =>
    constructor
    · exact fun equal => ⟨value, rfl, equal⟩
    · rintro ⟨other, same, equal⟩
      cases same
      exact equal

theorem bind_eq_error_iff (start : Except Failure First) (next : First → Except Failure Second)
    (failure : Failure) :
    (start >>= next) = .error failure ↔
      start = .error failure ∨ ∃ value, start = .ok value ∧ next value = .error failure := by
  cases start with
  | error other =>
    constructor
    · exact fun equal => .inl (congrArg _ (Except.error.inj equal))
    · rintro (equal | ⟨value, equal, -⟩)
      · exact congrArg _ (Except.error.inj equal)
      · cases equal
  | ok value =>
    constructor
    · exact fun equal => .inr ⟨value, rfl, equal⟩
    · rintro (equal | ⟨other, same, equal⟩)
      · cases equal
      · cases same
        exact equal

theorem map_eq_ok_iff (change : First → Second) (start : Except Failure First) (result : Second) :
    start.map change = .ok result ↔ ∃ value, start = .ok value ∧ change value = result := by
  cases start with
  | error failure =>
    constructor
    · intro equal
      cases equal
    · rintro ⟨value, equal, -⟩
      cases equal
  | ok value =>
    constructor
    · exact fun equal => ⟨value, rfl, Except.ok.inj equal⟩
    · rintro ⟨other, same, rfl⟩
      cases same
      rfl

theorem map_eq_error_iff (change : First → Second) (start : Except Failure First)
    (failure : Failure) : start.map change = .error failure ↔ start = .error failure := by
  cases start with
  | error reason =>
    constructor
    · exact fun equal => congrArg _ (Except.error.inj equal)
    · exact fun equal => congrArg _ (Except.error.inj equal)
  | ok value => exact ⟨fun equal => (nomatch equal), fun equal => (nomatch equal)⟩

theorem mapError_eq_ok_iff (change : Failure → Second) (start : Except Failure First)
    (result : First) : start.mapError change = .ok result ↔ start = .ok result := by
  cases start with
  | error failure => exact ⟨fun equal => (nomatch equal), fun equal => (nomatch equal)⟩
  | ok value =>
    constructor
    · exact fun equal => congrArg _ (Except.ok.inj equal)
    · exact fun equal => congrArg _ (Except.ok.inj equal)

theorem mapError_eq_error_iff (change : Failure → Second) (start : Except Failure First)
    (failure : Second) :
    start.mapError change = .error failure ↔
      ∃ reason, start = .error reason ∧ change reason = failure := by
  cases start with
  | error reason =>
    constructor
    · exact fun equal => ⟨reason, rfl, Except.error.inj equal⟩
    · rintro ⟨other, same, rfl⟩
      cases same
      rfl
  | ok value =>
    constructor
    · intro equal
      cases equal
    · rintro ⟨reason, equal, -⟩
      cases equal

theorem exists_map_eq_ok_iff (change : First → Second) (start : Except Failure First) :
    (∃ result, start.map change = .ok result) ↔ ∃ value, start = .ok value := by
  cases start with
  | error failure => exact ⟨fun ⟨_, equal⟩ => (nomatch equal), fun ⟨_, equal⟩ => (nomatch equal)⟩
  | ok value => exact ⟨fun _ => ⟨value, rfl⟩, fun _ => ⟨change value, rfl⟩⟩

/-! ### With a state -/

section Running

variable {work : ExceptT Failure (StateM State) First}

theorem run_get (state : State) :
    (get : ExceptT Failure (StateM State) State).run.run state = (.ok state, state) := rfl

theorem run_bind_of_ok (next : First → ExceptT Failure (StateM State) Second)
    {before between : State} {value : First}
    (first : work.run.run before = (.ok value, between)) :
    (work >>= next).run.run before = (next value).run.run between := by
  rw [ExceptT.run_bind, StateT.run_bind, first]
  rfl

theorem run_bind_of_error (next : First → ExceptT Failure (StateM State) Second)
    {before between : State} {failure : Failure}
    (first : work.run.run before = (.error failure, between)) :
    (work >>= next).run.run before = (.error failure, between) := by
  rw [ExceptT.run_bind, StateT.run_bind, first]
  rfl

theorem run_tryCatch_of_ok (handle : Failure → ExceptT Failure (StateM State) First)
    {before after : State} {value : First} (done : work.run.run before = (.ok value, after)) :
    (tryCatch work handle).run.run before = (.ok value, after) := by
  rw [ExceptT.run_tryCatch, StateT.run_bind, done]
  rfl

theorem run_tryCatch_of_error (handle : Failure → ExceptT Failure (StateM State) First)
    {before between : State} {failure : Failure}
    (failed : work.run.run before = (.error failure, between)) :
    (tryCatch work handle).run.run before = (handle failure).run.run between := by
  rw [ExceptT.run_tryCatch, StateT.run_bind, failed]
  rfl

end Running

/-! ### Item by item -/

/-- A computation for every item of a list succeeds exactly if it does for each of them. -/
theorem mapM_eq_ok_iff (step : Item → Except Failure Result) (items : List Item)
    (results : List Result) :
    items.mapM step = .ok results ↔
      List.Forall₂ (fun item result => step item = .ok result) items results := by
  induction items generalizing results with
  | nil =>
    rw [List.mapM_nil, List.forall₂_nil_left_iff]
    exact ⟨fun equal => (Except.ok.inj equal).symm, fun equal => congrArg _ equal.symm⟩
  | cons item rest inductionHypothesis =>
    rw [List.mapM_cons, List.forall₂_cons_left_iff, bind_eq_ok_iff]
    constructor
    · rintro ⟨result, first, mapped⟩
      obtain ⟨others, further, equal⟩ := (bind_eq_ok_iff _ _ _).mp mapped
      exact ⟨result, others, first, (inductionHypothesis others).mp further,
        (Except.ok.inj equal).symm⟩
    · rintro ⟨result, others, first, further, rfl⟩
      refine ⟨result, first, ?_⟩
      rw [(inductionHypothesis others).mpr further]
      rfl

theorem mapM_congr_of_mem {step other : Item → Except Failure Result} {items : List Item}
    (same : ∀ item ∈ items, step item = other item) : items.mapM step = items.mapM other := by
  induction items with
  | nil => rw [List.mapM_nil, List.mapM_nil]
  | cons item rest inductionHypothesis =>
    obtain ⟨first, further⟩ := List.forall_mem_cons.mp same
    rw [List.mapM_cons, List.mapM_cons, first, inductionHypothesis further]

/-- A computation that may have no result, for every item of a list. -/
theorem mapM_eq_some_iff (step : Item → Option Result) (items : List Item)
    (results : List Result) :
    items.mapM step = some results ↔
      List.Forall₂ (fun item result => step item = some result) items results := by
  induction items generalizing results with
  | nil =>
    rw [List.mapM_nil, List.forall₂_nil_left_iff]
    exact ⟨fun equal => (Option.some.inj equal).symm, fun equal => congrArg _ equal.symm⟩
  | cons item rest inductionHypothesis =>
    rw [List.mapM_cons, List.forall₂_cons_left_iff]
    constructor
    · intro mapped
      obtain ⟨result, first, mapped⟩ := Option.bind_eq_some_iff.mp mapped
      obtain ⟨others, further, equal⟩ := Option.bind_eq_some_iff.mp mapped
      exact ⟨result, others, first, (inductionHypothesis others).mp further,
        (Option.some.inj equal).symm⟩
    · rintro ⟨result, others, first, further, rfl⟩
      rw [first, (inductionHypothesis others).mpr further]
      rfl

theorem exists_getElem?_of_forall₂ {related : First → Second → Prop} {firsts : List First}
    {seconds : List Second} (all : List.Forall₂ related firsts seconds) {position : Nat}
    {first : First} (found : firsts[position]? = some first) :
    ∃ second, seconds[position]? = some second ∧ related first second := by
  obtain ⟨size, pointwise⟩ := List.forall₂_iff_get.mp all
  obtain ⟨inside, rfl⟩ := List.getElem?_eq_some_iff.mp found
  have within : position < seconds.length := size ▸ inside
  exact ⟨seconds[position], List.getElem?_eq_getElem within, pointwise position inside within⟩

theorem exists_mem_of_forall₂ {related : First → Second → Prop} {firsts : List First}
    {seconds : List Second} (all : List.Forall₂ related firsts seconds) {second : Second}
    (member : second ∈ seconds) : ∃ first ∈ firsts, related first second := by
  obtain ⟨position, found⟩ := List.mem_iff_getElem?.mp member
  have flipped : List.Forall₂ (flip related) seconds firsts := List.Forall₂.flip all
  obtain ⟨first, foundFirst, holds⟩ := exists_getElem?_of_forall₂ flipped found
  exact ⟨first, List.mem_of_getElem? foundFirst, holds⟩

/-- Items that are related one by one to a second list, each through something third, are related
to a list of such things. -/
theorem exists_forall₂_between {Third : Type} {related : First → Second → Prop}
    {ahead : First → Third → Prop} {behind : Second → Third → Prop} {firsts : List First}
    {seconds : List Second} (all : List.Forall₂ related firsts seconds)
    (between : ∀ first ∈ firsts, ∀ second, related first second →
      ∃ third, ahead first third ∧ behind second third) :
    ∃ thirds, List.Forall₂ ahead firsts thirds ∧ List.Forall₂ behind seconds thirds := by
  induction all with
  | nil => exact ⟨[], .nil, .nil⟩
  | @cons first second firsts seconds holds _ inductionHypothesis =>
    obtain ⟨here, further⟩ := List.forall_mem_cons.mp between
    obtain ⟨third, firstHolds, secondHolds⟩ := here second holds
    obtain ⟨thirds, firstsHold, secondsHold⟩ := inductionHypothesis further
    exact ⟨third :: thirds, .cons firstHolds firstsHold, .cons secondHolds secondsHold⟩

/-- A computation for every item of a list has results if it has one for each of them. -/
theorem exists_mapM_eq_ok_iff (step : Item → Except Failure Result) (items : List Item) :
    (∃ results, items.mapM step = .ok results) ↔
      ∀ item ∈ items, ∃ result, step item = .ok result := by
  constructor
  · rintro ⟨results, mapped⟩ item member
    obtain ⟨position, found⟩ := List.mem_iff_getElem?.mp member
    obtain ⟨result, -, stepped⟩ :=
      exists_getElem?_of_forall₂ ((mapM_eq_ok_iff step items results).mp mapped) found
    exact ⟨result, stepped⟩
  · intro each
    induction items with
    | nil => exact ⟨[], List.mapM_nil⟩
    | cons item rest inductionHypothesis =>
      obtain ⟨first, further⟩ := List.forall_mem_cons.mp each
      obtain ⟨result, stepped⟩ := first
      obtain ⟨results, mapped⟩ := inductionHypothesis further
      refine ⟨result :: results, ?_⟩
      rw [List.mapM_cons, stepped, mapped]
      rfl

/-! ### Up to the first failure -/

/-- A computation for every item of a list fails as it does for the first item that has no
result. -/
theorem mapM_eq_error_iff (step : Item → Except Failure Result) (items : List Item)
    (failure : Failure) :
    items.mapM step = .error failure ↔
      ∃ before item after, items = before ++ item :: after ∧
        (∀ earlier ∈ before, ∃ result, step earlier = .ok result) ∧
          step item = .error failure := by
  induction items with
  | nil =>
    constructor
    · intro failed
      cases failed
    · rintro ⟨before, item, after, split, -⟩
      exact absurd split (List.append_ne_nil_of_right_ne_nil _ (List.cons_ne_nil _ _)).symm
  | cons first rest inductionHypothesis =>
    rw [List.mapM_cons, bind_eq_error_iff]
    constructor
    · rintro (failed | ⟨result, stepped, failed⟩)
      · exact ⟨[], first, rest, rfl, List.forall_mem_nil _, failed⟩
      · rcases (bind_eq_error_iff _ _ _).mp failed with failed | ⟨results, -, impossible⟩
        · obtain ⟨before, item, after, rfl, earlier, failing⟩ := inductionHypothesis.mp failed
          exact ⟨first :: before, item, after, rfl,
            List.forall_mem_cons.mpr ⟨⟨result, stepped⟩, earlier⟩, failing⟩
        · cases impossible
    · rintro ⟨before, item, after, split, earlier, failing⟩
      cases before with
      | nil =>
        cases split
        exact .inl failing
      | cons head before =>
        cases split
        obtain ⟨⟨result, stepped⟩, earlier⟩ := List.forall_mem_cons.mp earlier
        refine .inr ⟨result, stepped, (bind_eq_error_iff _ _ _).mpr (.inl ?_)⟩
        exact inductionHypothesis.mpr ⟨before, item, after, rfl, earlier, failing⟩

/-- Items that may be failures are all there, or there are some before the first failure. -/
theorem split_at_failure (results : List (Except Failure Item)) :
    (∃ items : List Item, results = items.map .ok) ∨
      ∃ (items : List Item) (failure : Failure) (rest : _),
        results = items.map .ok ++ .error failure :: rest := by
  induction results with
  | nil => exact .inl ⟨[], rfl⟩
  | cons result rest inductionHypothesis =>
    cases result with
    | error failure => exact .inr ⟨[], failure, rest, rfl⟩
    | ok item =>
      rcases inductionHypothesis with ⟨items, rfl⟩ | ⟨items, failure, others, rfl⟩
      · exact .inl ⟨item :: items, rfl⟩
      · exact .inr ⟨item :: items, failure, others, rfl⟩

theorem mapM_id_of_all_ok (items : List Item) :
    (items.map .ok : List (Except Failure Item)).mapM id = .ok items := by
  rw [mapM_eq_ok_iff, List.forall₂_map_left_iff, List.forall₂_same]
  exact fun item _ => rfl

theorem mapM_id_of_failure (items : List Item) (failure : Failure)
    (rest : List (Except Failure Item)) :
    (items.map .ok ++ .error failure :: rest : List (Except Failure Item)).mapM id =
      .error failure := by
  rw [List.mapM_append, mapM_id_of_all_ok, List.mapM_cons]
  rfl

/-! ### Items in turn -/

theorem foldlM_concat (step : State → Item → Except Failure State) (state : State)
    (items : List Item) (item : Item) :
    (items ++ [item]).foldlM step state =
      items.foldlM step state >>= fun reached => step reached item := by
  rw [List.foldlM_append]
  simp only [List.foldlM_cons, List.foldlM_nil, bind_pure]

/-- A run over a list stops with a failure at the first item whose step fails. -/
theorem foldlM_eq_error_iff (step : State → Item → Except Failure State) (state : State)
    (items : List Item) (failure : Failure) :
    items.foldlM step state = .error failure ↔
      ∃ before item after reached, items = before ++ item :: after ∧
        before.foldlM step state = .ok reached ∧ step reached item = .error failure := by
  induction items generalizing state with
  | nil =>
    constructor
    · intro failed
      cases failed
    · rintro ⟨before, item, after, reached, split, -⟩
      exact absurd split (List.append_ne_nil_of_right_ne_nil _ (List.cons_ne_nil _ _)).symm
  | cons first rest inductionHypothesis =>
    rw [List.foldlM_cons]
    constructor
    · intro failed
      cases stepped : step state first with
      | error other =>
        rw [stepped] at failed
        cases failed
        exact ⟨[], first, rest, state, rfl, rfl, stepped⟩
      | ok next =>
        rw [stepped] at failed
        obtain ⟨before, item, after, reached, rfl, collected, failing⟩ :=
          (inductionHypothesis next).mp failed
        refine ⟨first :: before, item, after, reached, rfl, ?_, failing⟩
        rw [List.foldlM_cons, stepped]
        exact collected
    · rintro ⟨before, item, after, reached, split, collected, failing⟩
      cases before with
      | nil =>
        cases split
        cases collected
        rw [failing]
        rfl
      | cons head before =>
        cases split
        rw [List.foldlM_cons] at collected
        obtain ⟨next, stepped, collected⟩ := (bind_eq_ok_iff _ _ _).mp collected
        rw [stepped]
        exact (inductionHypothesis next).mpr
          ⟨before, item, after, reached, rfl, collected, failing⟩

end SqlRecords
