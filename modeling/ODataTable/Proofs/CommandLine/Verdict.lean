import ODataTable.CommandLine.Run
import ODataTable.Proofs.Dictionary
import ODataTable.Proofs.Effect

/-! The verdict of the query command on its files.

Each file is a query, and the exit code is told by the outcomes under the identifiers of the
queries. An identifier is the stem of a file, so of the files of one stem only the last one counts.
-/

set_option autoImplicit false

namespace ODataTable.CommandLine

def Succeeds (outcome : Except ServiceFault Frame) : Prop :=
  ∃ frame, outcome = .ok frame

def byRefId (judged : List (String × Except ServiceFault Frame)) :
    List (String × Except ServiceFault Frame) :=
  judged.map fun file => (refIdOf file.1, file.2)

/-- What a command does whose files came to outcomes of their own. -/
def verdict (format : OutputFormat) (judged : List (String × Except ServiceFault Frame)) :
    Outcome :=
  batchOutcome format (.ofList (byRefId judged))

/-- Whether every file succeeded that has no other file of its stem after it. -/
def LastSucceed (judged : List (String × Except ServiceFault Frame)) : Prop :=
  ∀ before file after, judged = before ++ file :: after →
    refIdOf file.1 ∉ after.map (refIdOf ·.1) → Succeeds file.2

theorem batchOutcome_exitCode (format : OutputFormat) (outcomes : BatchOutcome) :
    ((batchOutcome format outcomes).exitCode = 0 ∧ ∀ entry ∈ outcomes, Succeeds entry.2) ∨
    ((batchOutcome format outcomes).exitCode = 1 ∧ ¬ ∀ entry ∈ outcomes, Succeeds entry.2) := by
  induction outcomes with
  | nil => exact .inl ⟨rfl, by simp⟩
  | cons entry rest ih =>
    obtain ⟨refId, outcome⟩ := entry
    cases outcome with
    | error fault =>
      refine .inr ⟨rfl, fun all => ?_⟩
      obtain ⟨frame, same⟩ := all _ List.mem_cons_self
      cases same
    | ok frame =>
      -- A frame leaves the exit code as the other outcomes make it.
      have here : Succeeds (.ok frame) := ⟨frame, rfl⟩
      rcases ih with ⟨code, all⟩ | ⟨code, failed⟩
      · exact .inl ⟨code, by simpa [here] using all⟩
      · exact .inr ⟨code, by simpa [here] using failed⟩

theorem lastSucceed_iff {judged : List (String × Except ServiceFault Frame)} :
    LastSucceed judged ↔ ∀ entry ∈ Dictionary.ofList (byRefId judged), Succeeds entry.2 := by
  constructor
  · rintro all ⟨refId, outcome⟩ member
    obtain ⟨before, after, split, last⟩ := Dictionary.mem_ofList.mp member
    -- The entry and those around it belong to files.
    obtain ⟨first, others, rfl, rfl, behind⟩ := List.map_eq_append_iff.mp split
    obtain ⟨file, following, rfl, same, rfl⟩ := List.map_eq_cons_iff.mp behind
    cases same
    refine all first file following rfl ?_
    simpa [Function.comp_def] using last
  · intro all before file after split last
    refine all (refIdOf file.1, file.2) (Dictionary.mem_ofList.mpr ?_)
    refine ⟨byRefId before, byRefId after, by simp [byRefId, split], ?_⟩
    simpa [byRefId, Function.comp_def] using last

theorem verdict_exitCode (format : OutputFormat)
    (judged : List (String × Except ServiceFault Frame)) :
    ((verdict format judged).exitCode = 0 ∧ LastSucceed judged) ∨
    ((verdict format judged).exitCode = 1 ∧ ¬ LastSucceed judged) := by
  rw [lastSucceed_iff]
  exact batchOutcome_exitCode format _

theorem verdict_exitCode_eq_zero {format : OutputFormat}
    {judged : List (String × Except ServiceFault Frame)} :
    (verdict format judged).exitCode = 0 ↔ LastSucceed judged := by
  rcases verdict_exitCode format judged with ⟨code, all⟩ | ⟨code, failed⟩
  · simp [code, all]
  · simp [code, failed]

theorem exists_repeated {α β : Type} {key : α → β} {items : List α}
    (repeated : ¬ (items.map key).Nodup) :
    ∃ before item after, items = before ++ item :: after ∧ key item ∈ after.map key := by
  induction items with
  | nil => exact absurd List.nodup_nil repeated
  | cons item rest ih =>
    by_cases later : key item ∈ rest.map key
    · exact ⟨[], item, rest, rfl, later⟩
    · rw [List.map_cons, List.nodup_cons, not_and] at repeated
      obtain ⟨before, other, after, rfl, again⟩ := ih (repeated later)
      exact ⟨item :: before, other, after, rfl, again⟩

theorem lastSucceed_of_distinct {judged : List (String × Except ServiceFault Frame)}
    (distinct : (judged.map (refIdOf ·.1)).Nodup) :
    LastSucceed judged ↔ ∀ file ∈ judged, Succeeds file.2 := by
  constructor
  · intro last file member
    obtain ⟨before, after, rfl⟩ := List.append_of_mem member
    rw [List.map_append, List.map_cons, List.nodup_append, List.nodup_cons] at distinct
    exact last before file after rfl distinct.2.1.1
  · rintro all before file after rfl _
    exact all file (by simp)

/-- A file that fails before another of its stem leaves the verdict as if it had succeeded. -/
theorem lastSucceed_of_overruled {before after : List (String × Except ServiceFault Frame)}
    {file : String × Except ServiceFault Frame} (overruled : refIdOf file.1 ∈ after.map (refIdOf ·.1))
    (others : ∀ other ∈ before ++ after, Succeeds other.2) :
    LastSucceed (before ++ file :: after) := by
  intro first other rest split last
  -- What is looked at stands behind the overruled file, or is it, or stands before it.
  rcases List.append_eq_append_iff.mp split with ⟨gap, rfl, behind⟩ | ⟨gap, rfl, behind⟩
  · rcases List.cons_eq_append_iff.mp behind with ⟨rfl, same⟩ | ⟨gap, rfl, same⟩
    · cases same
      exact absurd overruled last
    · refine others other ?_
      simp [same]
  · cases gap with
    | nil =>
      cases behind
      exact absurd overruled last
    | cons next gap =>
      cases behind
      exact others other (by simp)

/-- The window of time between two ends, whichever comes first. -/
def askedWindow (start stop : Option Instant) (now : Instant) : TimeRange :=
  { start := start.getD ((stop.getD now).back defaultWindow), stop := stop.getD now }

theorem windowOf_of_ordered {start stop : Option Instant} {now : Instant}
    (ordered : (askedWindow start stop now).stop.before (askedWindow start stop now).start = false) :
    windowOf start stop now = .ok (askedWindow start stop now) := by
  simp only [askedWindow] at ordered
  simp only [windowOf, ordered, Bool.false_eq_true, if_false, askedWindow]

section
variable {m : Type → Type} [Monad m]

/-- A query command that is read, configured and connected, in order and with readable files. -/
structure QueryCommand (host : Host m) where
  arguments : List String
  globals : Globals
  files : List String
  start : Option Instant
  stop : Option Instant
  format : OutputFormat
  config : Config
  connection : Connection
  now : Instant
  payloadOf : String → List UInt8
  parsed : Invocation.parse arguments = .ok { globals, command := .query files start stop format }
  logged : createLog host globals.logFile = pure ()
  configured : loadConfig host globals.config = pure config
  connected : connectionOf host config globals.url = pure connection
  clock : host.now = pure now
  ordered : (askedWindow start stop now).stop.before (askedWindow start stop now).start = false
  readable : ∀ path ∈ files, host.contentOf path = pure (.octets (payloadOf path))

namespace QueryCommand

variable {host : Host m}

def source (command : QueryCommand host) : Source m :=
  .ofClient (.ofConnection command.connection) (host.send command.connection)

def queryOf (command : QueryCommand host) (path : String) : DataQuery :=
  { refId := refIdOf path
    payload := command.payloadOf path
    range := askedWindow command.start command.stop command.now }

def outcomes (command : QueryCommand host) : m (List (Except ServiceFault Frame)) :=
  command.files.mapM fun path => command.source.query (command.queryOf path)

variable [LawfulMonad m]

theorem readQueryFile_eq (command : QueryCommand host) {path : String}
    (member : path ∈ command.files) :
    readQueryFile host (askedWindow command.start command.stop command.now) path =
      pure (command.queryOf path) := by
  apply ExceptT.ext
  simp only [readQueryFile, command.readable path member, liftM_pure, pure_bind, ExceptT.run_pure,
    queryOf]

theorem runBatch_eq (command : QueryCommand host) :
    command.source.runBatch (command.files.map command.queryOf) =
      (fun outcomes => Dictionary.ofList (byRefId (command.files.zip outcomes))) <$>
        command.outcomes := by
  have paired : ∀ outcomes, ((command.files.map command.queryOf).map (·.refId)).zip outcomes =
      byRefId (command.files.zip outcomes) := by
    intro outcomes
    rw [List.map_map, List.zip_map_left]
    rfl
  unfold Source.runBatch
  rw [List.mapM_map]
  simp only [paired, outcomes, map_eq_pure_bind]
  rfl

theorem runQuery_eq (command : QueryCommand host) :
    (runQuery host command.source command.files command.start command.stop command.format).run =
      (fun outcomes => .ok (verdict command.format (command.files.zip outcomes))) <$>
        command.outcomes := by
  have window := windowOf_of_ordered command.ordered
  have queries := mapM_eq_pure fun _ member => command.readQueryFile_eq member
  have ranged : (ExceptT.mk (pure (.ok (askedWindow command.start command.stop command.now))) :
      ExceptT Failure m TimeRange) = pure (askedWindow command.start command.stop command.now) :=
    rfl
  simp only [runQuery, command.clock, liftM_pure, pure_bind, window, ranged, queries]
  rw [command.runBatch_eq]
  simp only [bind_pure_comp, ExceptT.run_map, ExceptT.run_liftM, Functor.map_map, Except.map,
    verdict]

theorem run_eq (command : QueryCommand host) :
    run host command.arguments =
      (fun outcomes => verdict command.format (command.files.zip outcomes)) <$>
        command.outcomes := by
  have handled := command.runQuery_eq
  unfold source at handled
  simp only [run, command.parsed, runInvocation, command.logged, command.configured,
    command.connected, pure_bind, runCommand, handled, bind_map_left, bind_pure_comp]

omit [LawfulMonad m] in
/-- The exit code tells whether all files succeeded, whatever they come to, exactly if no two of
them have the same stem. -/
theorem exitCode_tells_all_iff (command : QueryCommand host) :
    (∀ outcomes : List (Except ServiceFault Frame), outcomes.length = command.files.length →
      ((verdict command.format (command.files.zip outcomes)).exitCode = 0 ↔
        ∀ outcome ∈ outcomes, Succeeds outcome)) ↔
      (command.files.map refIdOf).Nodup := by
  constructor
  · intro tells
    by_contra repeated
    obtain ⟨before, path, after, files, overruled⟩ := exists_repeated repeated
    -- Only the first of two files with one stem fails.
    let fine : Except ServiceFault Frame := .ok { name := "" }
    let failed : Except ServiceFault Frame := .error (.metadataRefused 500)
    let judged := before.map (·, fine) ++ (path, failed) :: after.map (·, fine)
    have paths : command.files = judged.map Prod.fst := by
      simp [judged, files, Function.comp_def]
    have zipped : command.files.zip (judged.map Prod.snd) = judged := by
      rw [paths, List.zip_map', List.map_id']
    have others : ∀ other ∈ before.map (·, fine) ++ after.map (·, fine), Succeeds other.2 := by
      intro other member
      rw [← List.map_append] at member
      obtain ⟨_, _, rfl⟩ := List.mem_map.mp member
      exact ⟨_, rfl⟩
    have hidden : LastSucceed judged :=
      lastSucceed_of_overruled (by simpa [Function.comp_def] using overruled) others
    have all := (tells (judged.map Prod.snd) (by simp [paths])).mp
      (by rw [zipped]; exact verdict_exitCode_eq_zero.mpr hidden)
    obtain ⟨frame, same⟩ := all failed (by simp [judged])
    simp [failed] at same
  · intro distinct outcomes count
    have paths : (command.files.zip outcomes).map Prod.fst = command.files :=
      List.map_fst_zip (by omega)
    have ends : (command.files.zip outcomes).map Prod.snd = outcomes :=
      List.map_snd_zip (by omega)
    have apart : ((command.files.zip outcomes).map (refIdOf ·.1)).Nodup := by
      rw [← paths, List.map_map] at distinct
      exact distinct
    rw [verdict_exitCode_eq_zero, lastSucceed_of_distinct apart, ← List.forall_mem_map, ends]

/-- The command runs the query of each file and gives its verdict on what they come to, also as
the exit code of the program. The exit code is 0 or 1, and 0 means that every file succeeded that
has no other file of its stem after it. So it tells whether all files succeeded exactly if no two of
them have the same stem. -/
theorem exitCode_settled (command : QueryCommand host) :
    (runQuery host command.source command.files command.start command.stop command.format).run =
        (fun outcomes => .ok (verdict command.format (command.files.zip outcomes))) <$>
          command.outcomes ∧
    run host command.arguments =
        (fun outcomes => verdict command.format (command.files.zip outcomes)) <$>
          command.outcomes ∧
    (∀ judged : List (String × Except ServiceFault Frame),
      ((verdict command.format judged).exitCode = 0 ∧ LastSucceed judged) ∨
      ((verdict command.format judged).exitCode = 1 ∧ ¬ LastSucceed judged)) ∧
    ((∀ outcomes : List (Except ServiceFault Frame), outcomes.length = command.files.length →
      ((verdict command.format (command.files.zip outcomes)).exitCode = 0 ↔
        ∀ outcome ∈ outcomes, Succeeds outcome)) ↔
      (command.files.map refIdOf).Nodup) :=
  ⟨command.runQuery_eq, command.run_eq, verdict_exitCode command.format,
    command.exitCode_tells_all_iff⟩

end QueryCommand

end

/-- A machine with a file that holds no query, another one of its stem that selects nothing, and
no network. -/
def twinHost : Host Id :=
  { contentOf := fun path =>
      if path = "a.json" then .octets (Utf8.encode ['\x7b'])
      else if path = "a.txt" then .octets (Utf8.encode ['\x7b', '\x7d'])
      else .missing
    createLog := fun _ => true
    lookUp := fun _ => none
    environmentFile := .missing
    configPath? := some "config.toml"
    now := ⟨0, 0⟩
    send := fun _ _ => .error (.timeout "") }

def twinCommand : QueryCommand twinHost where
  arguments := ["--url", "http://svc.test", "query", "-f", "a.json", "a.txt"]
  globals := { url := some "http://svc.test" }
  files := ["a.json", "a.txt"]
  start := none
  stop := none
  format := .table
  config := {}
  connection := { url := "http://svc.test", timeoutSeconds := 30, connectTimeoutSeconds := 10, settings := {} }
  now := ⟨0, 0⟩
  payloadOf := fun path => if path = "a.json" then Utf8.encode ['\x7b'] else Utf8.encode ['\x7b', '\x7d']
  parsed := by decide +kernel
  logged := rfl
  configured := rfl
  connected := rfl
  clock := rfl
  ordered := by decide +kernel
  readable := by
    intro path member
    rcases List.mem_cons.mp member with rfl | member
    · rfl
    · rw [List.mem_singleton.mp member]
      rfl

def twinOutcomes : List (Except ServiceFault Frame) :=
  [.error (.invalidQuery .endInObject), .ok { name := "a" }]

theorem exitCode_settled_twin :
    Id.run twinCommand.outcomes = twinOutcomes ∧
      Id.run (run twinHost twinCommand.arguments) =
        verdict .table (twinCommand.files.zip twinOutcomes) ∧
      LastSucceed (twinCommand.files.zip twinOutcomes) ∧
      ¬ (twinCommand.files.map refIdOf).Nodup := by
  obtain ⟨_, ran, codes, _⟩ := twinCommand.exitCode_settled
  have outcomes : Id.run twinCommand.outcomes = twinOutcomes := by decide +kernel
  have code : (verdict .table (twinCommand.files.zip twinOutcomes)).exitCode = 0 := by
    decide +kernel
  refine ⟨outcomes, ?_, ?_, by decide +kernel⟩
  · rw [← outcomes]
    exact ran
  · rcases codes (twinCommand.files.zip twinOutcomes) with ⟨_, last⟩ | ⟨one, _⟩
    · exact last
    · exact absurd (one.symm.trans code) (by decide)

/-- The command exits with 0 although the query of its first file fails. -/
theorem twin_failure_hidden :
    ¬ ((Id.run (run twinHost twinCommand.arguments)).exitCode = 0 ↔
      ∀ path ∈ twinCommand.files,
        Succeeds (Id.run (twinCommand.source.query (twinCommand.queryOf path)))) := by
  have code : (Id.run (run twinHost twinCommand.arguments)).exitCode = 0 := by decide +kernel
  have failed : Id.run (twinCommand.source.query (twinCommand.queryOf "a.json")) =
      .error (.invalidQuery .endInObject) := by decide +kernel
  intro told
  obtain ⟨frame, succeeded⟩ := told.mp code "a.json" List.mem_cons_self
  rw [failed] at succeeded
  cases succeeded

end ODataTable.CommandLine
