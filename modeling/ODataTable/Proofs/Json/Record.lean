import ODataTable.Json.Record
import ODataTable.Proofs.Effect

/-! What holds of every record that is read.

A property of the state in which fields are collected survives the reading of a record if every
field keeps it, however the record is written.
-/

set_option autoImplicit false

namespace ODataTable

namespace Json

variable {σ α : Type}

/-- Whether reading leaves a property of a state as it is. -/
def Keeps (holds : σ → Prop) (read : σ → Reader σ) : Prop :=
  ∀ state input next rest, holds state → read state input = .ok (next, rest) → holds next

theorem refuse_ne_ok {β : Type} {expected : String} {input : List UInt8} {result : β} :
    refuse expected input ≠ .ok result := by
  intro read
  simp only [refuse, bind_eq_ok] at read
  obtain ⟨_, _, read⟩ := read
  cases read

/-- Whether everything that a reader gives has a property. -/
def Gives (good : α → Prop) (reader : Reader α) : Prop :=
  ∀ input value rest, reader input = .ok (value, rest) → good value

theorem Gives.anything (reader : Reader α) : Gives (fun _ => True) reader :=
  fun _ _ _ _ => trivial

theorem Gives.stored {good : α → Prop} {part : Reader α} (gives : Gives good part)
    {holds : σ → Prop} (store : α → σ → σ)
    (kept : ∀ value state, good value → holds state → holds (store value state)) :
    Keeps holds (fun state input => do
      let (value, input) ← part input
      .ok (store value state, input)) := by
  intro state input next rest known read
  simp only [bind_eq_ok] at read
  obtain ⟨⟨value, input⟩, own, read⟩ := read
  cases read
  exact kept value state (gives _ _ _ own) known

theorem Gives.optional {good : α → Prop} {part : Reader α} (gives : Gives good part) :
    Gives (fun found => ∀ value, found = some value → good value) (readOptional part) := by
  intro input found rest read value present
  unfold readOptional at read
  split at read
  · cases read
  split at read
  · simp only [bind_eq_ok] at read
    obtain ⟨_, _, read⟩ := read
    cases read
    cases present
  · simp only [bind_eq_ok] at read
    obtain ⟨⟨own, _⟩, part, read⟩ := read
    cases read
    cases present
    exact gives _ _ _ part

theorem Gives.readItems {good : α → Prop} {item : Reader α} (gives : Gives good item)
    (bound : List UInt8) (first : Bool) :
    Gives (fun items => ∀ value ∈ items, good value) (readItems item bound first) := by
  induction bound generalizing first with
  | nil =>
    intro input items rest read
    cases read
  | cons _ bound ih =>
    intro input items rest read
    simp only [Json.readItems, bind_eq_ok] at read
    obtain ⟨found, _, read⟩ := read
    cases found with
    | none =>
      cases read
      exact List.forall_mem_nil _
    | some input =>
      simp only [bind_eq_ok] at read
      obtain ⟨⟨value, _⟩, own, ⟨others, _⟩, later, read⟩ := read
      cases read
      exact List.forall_mem_cons.mpr ⟨gives _ _ _ own, ih false _ _ _ later⟩

theorem Gives.sequence {good : α → Prop} {item : Reader α} (gives : Gives good item) :
    Gives (fun items => ∀ value ∈ items, good value) (readSequence item) := by
  intro input items rest read
  unfold readSequence at read
  split at read
  · cases read
  split at read
  · simp only [readList, bind_eq_ok] at read
    obtain ⟨⟨items, _⟩, own, _, _, read⟩ := read
    cases read
    exact gives.readItems _ true _ _ _ own
  · exact absurd read refuse_ne_ok

theorem readMembers_keeps {holds : σ → Prop} {member : List Char → σ → Reader σ}
    (kept : ∀ key, Keeps holds (member key)) (bound : List UInt8) (first : Bool) :
    Keeps holds (readMembers member bound first) := by
  -- The state changes with every member, so the property has to hold of whatever it is.
  induction bound generalizing first with
  | nil =>
    intro state input next rest _ read
    cases read
  | cons _ bound ih =>
    intro state input next rest known read
    simp only [readMembers, bind_eq_ok] at read
    obtain ⟨found, _, read⟩ := read
    cases found with
    | none =>
      cases read
      exact known
    | some input =>
      simp only [bind_eq_ok] at read
      obtain ⟨⟨key, input⟩, _, ⟨state, input⟩, own, read⟩ := read
      exact ih false _ _ _ _ (kept key _ _ _ _ known own) read

namespace RecordShape

variable {shape : RecordShape σ α} {holds : σ → Prop}

theorem readMember_keeps (kept : ∀ field ∈ shape.fields, Keeps holds field.read) (key : List Char) :
    Keeps holds (shape.readMember key) := by
  intro state input next rest known read
  unfold readMember at read
  split at read
  next field found =>
    split at read
    · cases read
    · simp only [bind_eq_ok] at read
      obtain ⟨input, _, read⟩ := read
      exact kept field (List.mem_of_find?_eq_some found) _ _ _ _ known read
  next =>
    simp only [bind_eq_ok] at read
    obtain ⟨_, _, _, _, read⟩ := read
    cases read
    exact known

theorem readOrdered_keeps {fields : List (RecordField σ)}
    (kept : ∀ field ∈ fields, Keeps holds field.read) (index : Nat) :
    Keeps holds (shape.readOrdered index fields) := by
  induction fields generalizing index with
  | nil =>
    intro state input next rest known read
    cases read
    exact known
  | cons field fields ih =>
    have others : ∀ index, Keeps holds (shape.readOrdered index fields) :=
      ih fun other member => kept other (List.mem_cons_of_mem _ member)
    intro state input next rest known read
    simp only [readOrdered, bind_eq_ok] at read
    obtain ⟨item, _, read⟩ := read
    cases item with
    | none =>
      -- The list has ended, so this field and those after it need defaults.
      dsimp only at read
      split at read
      · exact others index _ _ _ _ known read
      · cases read
    | some input =>
      simp only [bind_eq_ok] at read
      obtain ⟨⟨state, input⟩, own, read⟩ := read
      have now := kept field List.mem_cons_self _ _ _ _ known own
      exact others (index + 1) _ _ _ _ now read

/-- A record that is read is built of a state that has every property which all fields keep. -/
theorem read_keeps (start : holds shape.start)
    (kept : ∀ field ∈ shape.fields, Keeps holds field.read) {input rest : List UInt8} {record : α}
    (read : shape.read input = .ok (record, rest)) :
    ∃ state, holds state ∧ shape.build state = record := by
  unfold RecordShape.read at read
  split at read
  · cases read
  unfold readAfter at read
  split at read
  · simp only [bind_eq_ok] at read
    obtain ⟨⟨state, _⟩, own, _, _, read⟩ := read
    cases read
    exact ⟨state, readOrdered_keeps kept 0 _ _ _ _ start own, rfl⟩
  · split at read
    · simp only [bind_eq_ok] at read
      obtain ⟨⟨state, _⟩, own, read⟩ := read
      split at read
      · cases read
      · simp only [bind_eq_ok] at read
        obtain ⟨_, _, read⟩ := read
        cases read
        exact ⟨state, readMembers_keeps (readMember_keeps kept) _ true _ _ _ _ start own, rfl⟩
    · exact absurd read refuse_ne_ok

theorem gives (start : holds shape.start)
    (kept : ∀ field ∈ shape.fields, Keeps holds field.read) {good : α → Prop}
    (built : ∀ state, holds state → good (shape.build state)) : Gives good shape.read := by
  intro input record rest read
  obtain ⟨state, known, rfl⟩ := read_keeps start kept read
  exact built state known

theorem parse_keeps (start : holds shape.start)
    (kept : ∀ field ∈ shape.fields, Keeps holds field.read) {input : List UInt8} {record : α}
    (parsed : shape.parse input = .ok record) : ∃ state, holds state ∧ shape.build state = record := by
  simp only [RecordShape.parse, readWhole, bind_eq_ok] at parsed
  obtain ⟨⟨value, rest⟩, read, parsed⟩ := parsed
  split at parsed
  · cases parsed
    exact read_keeps start kept read
  · cases parsed

end RecordShape

end Json

end ODataTable
