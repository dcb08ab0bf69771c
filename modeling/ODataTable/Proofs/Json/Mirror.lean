import Mathlib.Data.List.Forall2
import ODataTable.Json.Record

/-! Records whose fields are put into another form as they are read.

If every field of one shape stores the image of what the field of another shape stores, then both
read the same texts, refuse the others with the same faults, and differ in this form alone.
-/

set_option autoImplicit false

namespace ODataTable.Json

variable {σ τ α β : Type}

def inForm {ε : Type} (form : σ → τ) (read : Except ε (σ × List UInt8)) :
    Except ε (τ × List UInt8) :=
  read.map (Prod.map form id)

theorem inForm_bind {ε γ : Type} (form : σ → τ) (first : Except ε γ)
    (next : γ → Except ε (σ × List UInt8)) :
    inForm form (first >>= next) = first >>= fun value => inForm form (next value) := by
  cases first <;> rfl

/-- A reader that goes from the image of a state to the image of the next. -/
def Mirrors (form : σ → τ) (read : σ → Reader σ) (image : τ → Reader τ) : Prop :=
  ∀ state input, image (form state) input = inForm form (read state input)

theorem Mirrors.bind {γ : Type} {form : σ → τ} {read : σ → Reader σ} {image : τ → Reader τ}
    (mirrors : Mirrors form read image) (state : σ) (input : List UInt8)
    (next : τ × List UInt8 → Except Fault γ) :
    (image (form state) input >>= next) =
      read state input >>= fun found => next (form found.1, found.2) := by
  rw [mirrors state input]
  cases read state input <;> rfl

theorem Mirrors.stored {γ : Type} {form : σ → τ} {part : Reader γ} (store : γ → σ → σ)
    (image : γ → τ → τ)
    (same : ∀ value state, form (store value state) = image value (form state)) :
    Mirrors form
      (fun state input => do
        let (value, input) ← part input
        .ok (store value state, input))
      (fun state input => do
        let (value, input) ← part input
        .ok (image value state, input)) := by
  intro state input
  rw [inForm_bind]
  refine bind_congr fun read => ?_
  simp only [← same]
  rfl

theorem readMembers_mirrors {form : σ → τ} {member : List Char → σ → Reader σ}
    {image : List Char → τ → Reader τ} (each : ∀ key, Mirrors form (member key) (image key))
    (bound : List UInt8) (first : Bool) :
    Mirrors form (readMembers member bound first) (readMembers image bound first) := by
  induction bound generalizing first with
  | nil => exact fun _ _ => rfl
  | cons _ bound ih =>
    intro state input
    simp only [readMembers, inForm_bind]
    refine bind_congr fun found => ?_
    cases found with
    | none => rfl
    | some input =>
      simp only [inForm_bind]
      refine bind_congr fun read => ?_
      -- The member goes from state to state, and those after it do too.
      rw [(each read.1).bind]
      exact bind_congr fun read => ih false read.1 read.2

/-- A field that stores the image of what another field stores, and is like it otherwise. -/
structure RecordField.MirroredBy (form : σ → τ) (field : RecordField σ) (image : RecordField τ) :
    Prop where
  name : image.name = field.name
  hasDefault : image.hasDefault = field.hasDefault
  isSet : ∀ state, image.isSet (form state) = field.isSet state
  read : Mirrors form field.read image.read

structure RecordShape.MirroredBy (form : σ → τ) (shape : RecordShape σ α)
    (image : RecordShape τ β) : Prop where
  title : image.title = shape.title
  fields : List.Forall₂ (RecordField.MirroredBy form) shape.fields image.fields
  start : image.start = form shape.start

theorem find?_mirrored {form : σ → τ} {fields : List (RecordField σ)}
    {images : List (RecordField τ)}
    (each : List.Forall₂ (RecordField.MirroredBy form) fields images)
    {test : RecordField σ → Bool} {testImage : RecordField τ → Bool}
    (same : ∀ (field : RecordField σ) (image : RecordField τ),
      field.MirroredBy form image → testImage image = test field) :
    Option.Rel (RecordField.MirroredBy form) (fields.find? test) (images.find? testImage) := by
  induction each with
  | nil => exact .none
  | cons own _ ih =>
    rw [List.find?_cons, List.find?_cons, same _ _ own]
    split
    · exact .some own
    · exact ih

namespace RecordShape.MirroredBy

variable {form : σ → τ} {shape : RecordShape σ α} {image : RecordShape τ β}

theorem readMember (mirrored : shape.MirroredBy form image) (key : List Char) :
    Mirrors form (shape.readMember key) (image.readMember key) := by
  intro state input
  have found : Option.Rel (RecordField.MirroredBy form)
      (shape.fields.find? fun field => field.name.toList == key)
      (image.fields.find? fun field => field.name.toList == key) :=
    find?_mirrored mirrored.fields fun field image own => by rw [own.name]
  unfold RecordShape.readMember
  generalize shape.fields.find? (fun field => field.name.toList == key) = own at found ⊢
  generalize image.fields.find? (fun field => field.name.toList == key) = other at found ⊢
  cases found with
  | none =>
    -- What nobody knows is skipped, whatever the state.
    simp only [inForm_bind]
    rfl
  | some own =>
    simp only [own.isSet, own.name]
    split
    · rfl
    · rw [inForm_bind]
      exact bind_congr fun input => own.read state input

theorem readOrdered (mirrored : shape.MirroredBy form image) {fields : List (RecordField σ)}
    {images : List (RecordField τ)}
    (each : List.Forall₂ (RecordField.MirroredBy form) fields images) (index : Nat) :
    Mirrors form (shape.readOrdered index fields) (image.readOrdered index images) := by
  have number := mirrored.fields.length_eq
  induction each generalizing index with
  | nil => exact fun _ _ => rfl
  | cons own _ ih =>
    intro state input
    simp only [RecordShape.readOrdered, inForm_bind]
    refine bind_congr fun item => ?_
    cases item with
    | none =>
      -- The list has ended, so both need a default, and name the same number of fields if not.
      simp only [own.hasDefault, mirrored.title, number]
      split
      · exact ih index state input
      · rfl
    | some input =>
      simp only [inForm_bind]
      rw [own.read.bind]
      exact bind_congr fun read => ih (index + 1) read.1 read.2

theorem missing? (mirrored : shape.MirroredBy form image) (state : σ) :
    Option.Rel (RecordField.MirroredBy form) (shape.missing? state) (image.missing? (form state)) :=
  find?_mirrored mirrored.fields fun field image own => by rw [own.hasDefault, own.isSet]

variable {build : α → β}

theorem readAfter (mirrored : shape.MirroredBy form image)
    (built : ∀ state, image.build (form state) = build (shape.build state)) (b : UInt8)
    (rest : List UInt8) : image.readAfter b rest = inForm build (shape.readAfter b rest) := by
  unfold RecordShape.readAfter
  split
  · rw [mirrored.start, (mirrored.readOrdered mirrored.fields 0).bind, inForm_bind]
    refine bind_congr fun read => ?_
    simp only [inForm_bind, built]
    rfl
  split
  · rw [mirrored.start, (readMembers_mirrors mirrored.readMember rest true).bind, inForm_bind]
    refine bind_congr fun read => ?_
    have lacks := mirrored.missing? read.1
    dsimp only
    generalize shape.missing? read.1 = own at lacks ⊢
    generalize image.missing? (form read.1) = other at lacks ⊢
    cases lacks with
    | none =>
      simp only [inForm_bind, built]
      rfl
    | some own => simp only [own.name]; rfl
  · rw [mirrored.title]
    unfold refuse
    rw [inForm_bind]
    rfl

/-- The image of a shape reads what the shape reads, and builds the image of what it builds. -/
theorem parse (mirrored : shape.MirroredBy form image)
    (built : ∀ state, image.build (form state) = build (shape.build state)) (input : List UInt8) :
    image.parse input = (shape.parse input).map build := by
  have read : image.read input = inForm build (shape.read input) := by
    unfold RecordShape.read
    split
    · rfl
    · exact mirrored.readAfter built _ _
  unfold RecordShape.parse readWhole
  rw [read]
  cases shape.read input with
  | error fault => rfl
  | ok found =>
    obtain ⟨record, rest⟩ := found
    simp only [inForm, Except.map, bind, Except.bind, Prod.map, id]
    cases skipBlanks rest <;> rfl

end RecordShape.MirroredBy

end ODataTable.Json
