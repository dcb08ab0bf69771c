import ODataTable.Proofs.Dictionary
import ODataTable.Proofs.Table

/-! Batches whose answers arrive in any order.

All queries of a batch are under way at once. Each has a slot, and the answer to its call
finishes it, whenever it arrives. The order of arrival shows in no outcome.
-/

set_option autoImplicit false

namespace ODataTable

namespace Plan

def outcome? : Plan → Option (Except ServiceFault Frame)
  | .finished outcome => some outcome
  | .ask _ _ => none

def answered (source : Source Id) : Plan → Plan
  | .finished outcome => .finished outcome
  | .ask call conclude => .finished (source.ask call >>= conclude)

theorem run_answered (source : Source Id) (plan : Plan) :
    (plan.answered source).run source.ask = plan.run source.ask := by
  cases plan <;> rfl

theorem outcome?_answered (source : Source Id) (plan : Plan) :
    (plan.answered source).outcome? = some (plan.run source.ask) := by
  cases plan <;> rfl

theorem answered_answered (source : Source Id) (plan : Plan) :
    (plan.answered source).answered source = plan.answered source := by
  cases plan <;> rfl

theorem run_of_outcome? {source : Source Id} {plan : Plan} {outcome : Except ServiceFault Frame}
    (finished : plan.outcome? = some outcome) : plan.run source.ask = outcome := by
  cases plan with
  | finished kept =>
    cases finished
    rfl
  | ask call conclude => cases finished

end Plan

namespace Batch

def start (version : ProtocolVersion) (queries : List DataQuery) : List Plan :=
  queries.map (·.plan version)

def arrive (source : Source Id) (slots : List Plan) (position : Nat) : List Plan :=
  slots.modify position (Plan.answered source)

def run (source : Source Id) (slots : List Plan) (order : List Nat) : List Plan :=
  order.foldl (arrive source) slots

/-- The outcomes by identifiers, as soon as every slot is finished. -/
def collect? (queries : List DataQuery) (slots : List Plan) : Option BatchOutcome :=
  (slots.mapM Plan.outcome?).map fun outcomes =>
    Dictionary.ofList ((queries.map (·.refId)).zip outcomes)

/-- The outcomes that slots come to in the end. -/
def outcomes (source : Source Id) (slots : List Plan) : List (Except ServiceFault Frame) :=
  slots.map (Plan.run source.ask)

theorem outcomes_start (source : Source Id) (queries : List DataQuery) :
    outcomes source (start source.version queries) = queries.map source.query := by
  simp only [outcomes, start, List.map_map]
  rfl

theorem outcomes_arrive (source : Source Id) (slots : List Plan) (position : Nat) :
    outcomes source (arrive source slots position) = outcomes source slots := by
  apply List.ext_getElem?
  intro index
  simp only [outcomes, arrive, List.getElem?_map, List.getElem?_modify]
  split
  · simp [Function.comp_def, Plan.run_answered]
  · simp

theorem outcomes_run (source : Source Id) (slots : List Plan) (order : List Nat) :
    outcomes source (run source slots order) = outcomes source slots := by
  induction order generalizing slots with
  | nil => rfl
  | cons position rest ih => exact (ih _).trans (outcomes_arrive source slots position)

theorem getElem?_arrive (source : Source Id) (slots : List Plan) (arrived position : Nat) :
    (arrive source slots arrived)[position]? =
      if arrived = position then slots[position]?.map (Plan.answered source)
      else slots[position]? := by
  rw [arrive, List.getElem?_modify]
  split <;> simp

theorem getElem?_run (source : Source Id) (slots : List Plan) (order : List Nat) (position : Nat) :
    (run source slots order)[position]? =
      if position ∈ order then slots[position]?.map (Plan.answered source)
      else slots[position]? := by
  induction order generalizing slots with
  | nil => simp [run]
  | cons arrived rest ih =>
    have step : run source slots (arrived :: rest) = run source (arrive source slots arrived) rest :=
      rfl
    rw [step, ih, getElem?_arrive]
    by_cases now : arrived = position
    · -- A second answer for the same slot would find it finished.
      by_cases again : position ∈ rest <;>
        simp [now, again, Function.comp_def, Plan.answered_answered]
    · simp [now, Ne.symm now]

/-- Whether an answer arrives for each slot that waits for one. -/
def Completes (slots : List Plan) (order : List Nat) : Prop :=
  ∀ position plan, slots[position]? = some plan → plan.outcome? = none → position ∈ order

theorem finished_run {source : Source Id} {slots : List Plan} {order : List Nat}
    (complete : Completes slots order) :
    ∀ plan ∈ run source slots order, plan.outcome? = some (plan.run source.ask) := by
  intro plan member
  obtain ⟨position, found⟩ := List.mem_iff_getElem?.mp member
  rw [getElem?_run] at found
  split at found
  · obtain ⟨before, _, rfl⟩ := Option.map_eq_some_iff.mp found
    rw [Plan.outcome?_answered, Plan.run_answered]
  next never =>
    cases finished : plan.outcome? with
    | none => exact absurd (complete position plan found finished) never
    | some outcome => rw [Plan.run_of_outcome? finished]

theorem mapM_outcome? {source : Source Id} {slots : List Plan}
    (finished : ∀ plan ∈ slots, plan.outcome? = some (plan.run source.ask)) :
    slots.mapM Plan.outcome? = some (outcomes source slots) := by
  induction slots with
  | nil => rfl
  | cons plan rest ih =>
    have others := ih fun other member => finished other (List.mem_cons_of_mem _ member)
    rw [List.mapM_cons, finished plan List.mem_cons_self, others]
    rfl

theorem finished_of_mapM (source : Source Id) {slots : List Plan}
    {found : List (Except ServiceFault Frame)} (collected : slots.mapM Plan.outcome? = some found) :
    ∀ plan ∈ slots, plan.outcome? = some (plan.run source.ask) := by
  induction slots generalizing found with
  | nil =>
    intro plan member
    cases member
  | cons first rest ih =>
    rw [List.mapM_cons] at collected
    obtain ⟨outcome, finished, others⟩ := Option.bind_eq_some_iff.mp collected
    obtain ⟨_, later, _⟩ := Option.bind_eq_some_iff.mp others
    intro plan member
    rcases List.mem_cons.mp member with rfl | member
    · rw [Plan.run_of_outcome? finished, finished]
    · exact ih later plan member

theorem runBatch_eq (source : Source Id) (queries : List DataQuery) :
    source.runBatch queries =
      Dictionary.ofList ((queries.map (·.refId)).zip (queries.map source.query)) := by
  unfold Source.runBatch
  have each : queries.mapM source.query = pure (f := Id) (queries.map source.query) :=
    List.mapM_pure
  rw [each]
  rfl

/-- A batch waits for all answers, and then has what each query gives on its own. -/
theorem collect?_run (source : Source Id) (queries : List DataQuery) (order : List Nat)
    (outcome : BatchOutcome) :
    collect? queries (run source (start source.version queries) order) = some outcome ↔
      Completes (start source.version queries) order ∧ outcome = source.runBatch queries := by
  have settled := outcomes_run source (start source.version queries) order
  rw [outcomes_start] at settled
  constructor
  · intro collected
    obtain ⟨found, gathered, rfl⟩ := Option.map_eq_some_iff.mp collected
    have finished := finished_of_mapM source gathered
    constructor
    · intro position plan waiting unfinished
      by_contra never
      -- A slot without an answer still waits at the end.
      have left : (run source (start source.version queries) order)[position]? = some plan := by
        rw [getElem?_run, if_neg never, waiting]
      have outcome := finished plan (List.mem_of_getElem? left)
      rw [unfinished] at outcome
      cases outcome
    · have all := gathered.symm.trans (mapM_outcome? finished)
      rw [settled] at all
      rw [runBatch_eq, Option.some.inj all]
  · rintro ⟨complete, rfl⟩
    rw [collect?, mapM_outcome? (finished_run complete), settled, runBatch_eq]
    rfl

/-- Outcomes under the identifiers of a batch and no others. Each is what the last query with
the identifier gives on its own. -/
structure Isolated (source : Source Id) (queries : List DataQuery) (outcome : BatchOutcome) :
    Prop where
  ascending : outcome.Ascending
  keys : ∀ refId, refId ∈ outcome.keys ↔ refId ∈ queries.map (·.refId)
  last : ∀ before query after, queries = before ++ query :: after →
    query.refId ∉ after.map (·.refId) → outcome.find? query.refId = some (source.query query)

theorem runBatch_isolated (source : Source Id) (queries : List DataQuery) :
    Isolated source queries (source.runBatch queries) := by
  rw [runBatch_eq, List.zip_map']
  constructor
  · exact Dictionary.ofList_ascending _
  · intro refId
    rw [Dictionary.mem_keys_ofList, List.map_map]
    rfl
  · -- The position of the query in the batch is that of its outcome among the outcomes.
    intro before query after split last
    subst split
    rw [List.map_append, List.map_cons]
    refine Dictionary.find?_ofList rfl ?_
    simpa [Function.comp_def] using last

theorem Isolated.find? {source : Source Id} {queries : List DataQuery} {outcome : BatchOutcome}
    (isolated : Isolated source queries outcome) (distinct : (queries.map (·.refId)).Nodup)
    {query : DataQuery} (member : query ∈ queries) :
    outcome.find? query.refId = some (source.query query) := by
  obtain ⟨before, after, rfl⟩ := List.append_of_mem member
  rw [List.map_append, List.map_cons, List.nodup_append, List.nodup_cons] at distinct
  exact isolated.last before query after rfl distinct.2.1.1

/-- Whether two services treat a query alike: they speak the same version, and give the same
answer to the call of the query, if it makes one. -/
def SameFor (query : DataQuery) (first second : Source Id) : Prop :=
  first.version = second.version ∧
    ∀ call conclude, query.plan first.version = .ask call conclude → first.ask call = second.ask call

theorem query_of_sameFor {query : DataQuery} {first second : Source Id}
    (same : SameFor query first second) : first.query query = second.query query := by
  obtain ⟨version, answers⟩ := same
  unfold Source.query
  rw [← version]
  cases planned : query.plan first.version with
  | finished outcome => rfl
  | ask call conclude =>
    simp only [Plan.run, answers call conclude planned]

/-- In whatever order the answers arrive, a batch collects the outcomes that its queries have on
their own. So an outcome depends neither on the other queries nor on what they are answered. -/
theorem arrivals_isolated (source : Source Id) (queries : List DataQuery) (order : List Nat)
    (complete : Completes (start source.version queries) order) :
    ∃ outcome,
      collect? queries (run source (start source.version queries) order) = some outcome ∧
      outcome = source.runBatch queries ∧ Isolated source queries outcome ∧
      ((queries.map (·.refId)).Nodup → ∀ query ∈ queries, ∀ (other : Source Id) others,
        (others.map (·.refId)).Nodup → query ∈ others → SameFor query source other →
          (other.runBatch others).find? query.refId = outcome.find? query.refId) := by
  have isolated := runBatch_isolated source queries
  refine ⟨source.runBatch queries, ?_, rfl, isolated, ?_⟩
  · exact (collect?_run source queries order _).mpr ⟨complete, rfl⟩
  · intro distinct query member other others apart also same
    rw [isolated.find? distinct member, (runBatch_isolated other others).find? apart also,
      query_of_sameFor same]

def brokenQuery : DataQuery := { dayQuery with refId := "B", payload := Utf8.encode ['\x7b'] }

def dayBatch : List DataQuery := [dayQuery, brokenQuery, { dayQuery with refId := "C" }]

def daySource : Source Id := ⟨.auto, fun _ => .ok dayAnswer.response⟩

/-- The answers arrive from the last to the first, and the query between them has none. -/
theorem arrivals_isolated_dayBatch :
    Completes (start .auto dayBatch) [2, 0] ∧
      ∃ outcome, collect? dayBatch (run daySource (start .auto dayBatch) [2, 0]) = some outcome ∧
        outcome.find? "A" = some (.ok dayTable) ∧
        outcome.find? "B" = some (.error (.invalidQuery .endInObject)) := by
  have broken : ∀ plan, (start .auto dayBatch)[1]? = some plan → plan.outcome? ≠ none := by
    have read : QueryModel.parse brokenQuery.payload = .error .endInObject := by decide +kernel
    intro plan found
    simp only [start, dayBatch, List.map_cons, List.getElem?_cons_succ, List.getElem?_cons_zero,
      Option.some.injEq] at found
    rw [← found, DataQuery.plan, read]
    exact Option.some_ne_none _
  have complete : Completes (start .auto dayBatch) [2, 0] := by
    intro position plan found unfinished
    rcases position with _ | _ | _ | position
    · decide
    · exact absurd unfinished (broken plan found)
    · decide
    · cases found
  obtain ⟨outcome, collected, _, isolated, _⟩ :=
    arrivals_isolated daySource dayBatch [2, 0] complete
  have first : (daySource.query dayQuery).run = .ok dayTable := by decide +kernel
  have second : (daySource.query brokenQuery).run = .error (.invalidQuery .endInObject) := by
    decide +kernel
  refine ⟨complete, outcome, collected, ?_, ?_⟩
  · rw [← first]
    exact isolated.last [] dayQuery _ rfl (by decide)
  · rw [← second]
    exact isolated.last [dayQuery] brokenQuery _ rfl (by decide)

end Batch

end ODataTable
