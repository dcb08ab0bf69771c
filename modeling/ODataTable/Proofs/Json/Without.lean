import ODataTable.Proofs.Json.LocalRecord
import ODataTable.Proofs.Json.Mirror

/-! Records without one of their members.

A field with a default may be left out. If its member is cut from the text of an object, together
with a comma beside it, then the text is read as the record that lacks the field.
-/

set_option autoImplicit false

namespace ODataTable.Json

variable {α β σ : Type}

/-- A text is the member of a name, in which a value is read. -/
def IsMember (part : Reader β) (name : String) (value : β) (text : List UInt8) : Prop :=
  ∃ key written, text = octet '"' :: (key ++ written) ∧
    (∀ more, readString (key ++ more) = .ok (name.toList, more)) ∧
    ∀ more, Ends more → (readColon (written ++ more) >>= part) = .ok (value, more)

/-- A text and what is left of it without a member, which is cut out with separators beside it. -/
def CutsMember (part : Reader β) (name : String) (value : β) (input left : List UInt8) : Prop :=
  ∃ before lead text trail after, input = before ++ (lead ++ text ++ trail) ++ after ∧
    left = before ++ after ∧ Separates lead ∧ Separates trail ∧ IsMember part name value text

theorem CutsMember.behind {part : Reader β} {name : String} {value : β} {input left : List UInt8}
    (cuts : CutsMember part name value input left) (front : List UInt8) :
    CutsMember part name value (front ++ input) (front ++ left) := by
  obtain ⟨before, lead, text, trail, after, rfl, rfl, separates⟩ := cuts
  exact ⟨front ++ before, lead, text, trail, after, by simp, by simp, separates⟩

structure RecordField.Leaves (other : RecordField σ) (get : σ → Option β) (erase : σ → σ) :
    Prop where
  isSet : ∀ state, other.isSet (erase state) = other.isSet state
  read : Mirrors erase other.read other.read
  keeps : ∀ stored, Keeps (fun state => get state = stored) other.read

theorem RecordField.Leaves.stored {γ : Type} {get : σ → Option β} {erase : σ → σ} {name : String}
    {hasDefault : Bool} {isSet : σ → Bool} {part : Reader γ} (store : γ → σ → σ)
    (set : ∀ state, isSet (erase state) = isSet state)
    (erased : ∀ value state, erase (store value state) = store value (erase state))
    (kept : ∀ value state, get (store value state) = get state) :
    RecordField.Leaves
      { name := name, hasDefault := hasDefault, isSet := isSet
        read := fun state input => do
          let (value, input) ← part input
          .ok (store value state, input) } get erase where
  isSet := set
  read := .stored store store erased
  keeps := fun _ => (Gives.anything part).stored store
    fun value state _ known => (kept value state).trans known

/-- A field with a default stores what one part gives, and the other fields leave it alone. -/
structure RecordShape.Stores (shape : RecordShape σ α) (field : RecordField σ) (part : Reader β)
    (get : σ → Option β) (store : β → σ → σ) (erase : σ → σ) : Prop where
  found : shape.fields.find? (fun other => other.name.toList == field.name.toList) = some field
  hasDefault : ∀ other ∈ shape.fields, other.name = field.name → other.hasDefault = true
  others : ∀ other ∈ shape.fields, other.name ≠ field.name → other.Leaves get erase
  isSet : ∀ state, field.isSet state = (get state).isSome
  read : ∀ state input, field.read state input = (do
    let (value, input) ← part input
    .ok (store value state, input))
  get_store : ∀ value state, get (store value state) = some value
  erase_store : ∀ value state, erase (store value state) = erase state
  erase_of_none : ∀ state, get state = none → erase state = state

namespace RecordShape.Stores

variable {shape : RecordShape σ α} {field : RecordField σ} {part : Reader β} {get : σ → Option β}
  {store : β → σ → σ} {erase : σ → σ}

theorem leaves_of_found (stores : shape.Stores field part get store erase) {key : List Char}
    {other : RecordField σ}
    (found : shape.fields.find? (fun field => field.name.toList == key) = some other)
    (distinct : key ≠ field.name.toList) : other.Leaves get erase := by
  have name : other.name.toList = key := beq_iff_eq.mp (List.find?_some found :)
  exact stores.others other (List.mem_of_find?_eq_some found) fun same =>
    distinct (name.symm.trans (congrArg String.toList same))

theorem readMember_mirrors (stores : shape.Stores field part get store erase) {key : List Char}
    (distinct : key ≠ field.name.toList) :
    Mirrors erase (shape.readMember key) (shape.readMember key) := by
  intro state input
  unfold RecordShape.readMember
  cases found : shape.fields.find? (fun field => field.name.toList == key) with
  | none =>
    simp only [inForm_bind]
    rfl
  | some other =>
    have leaves := stores.leaves_of_found found distinct
    simp only [leaves.isSet]
    split
    · rfl
    · rw [inForm_bind]
      exact bind_congr fun input => leaves.read state input

theorem readMember_keeps_stored (stores : shape.Stores field part get store erase) {key : List Char}
    (distinct : key ≠ field.name.toList) (stored : Option β) :
    Keeps (fun state => get state = stored) (shape.readMember key) := by
  intro state input next rest known read
  unfold RecordShape.readMember at read
  cases found : shape.fields.find? (fun field => field.name.toList == key) with
  | none =>
    simp only [found, bind_eq_ok] at read
    obtain ⟨_, _, _, _, same⟩ := read
    cases same
    exact known
  | some other =>
    rw [found] at read
    dsimp only at read
    split at read
    · cases read
    · simp only [bind_eq_ok] at read
      obtain ⟨input, _, read⟩ := read
      exact (stores.leaves_of_found found distinct).keeps stored _ _ _ _ known read

theorem readMember_own (stores : shape.Stores field part get store erase) {state next : σ}
    {input rest : List UInt8}
    (read : shape.readMember field.name.toList state input = .ok (next, rest)) :
    get state = none ∧ ∃ value, (readColon input >>= part) = .ok (value, rest) ∧
      next = store value state := by
  unfold RecordShape.readMember at read
  rw [stores.found] at read
  dsimp only at read
  split at read
  · cases read
  next unset =>
    simp only [bind_eq_ok, stores.read] at read
    obtain ⟨_, colon, ⟨value, _⟩, own, same⟩ := read
    cases same
    rw [stores.isSet, Option.isSome_iff_ne_none, not_not] at unset
    exact ⟨unset, value, by rw [colon]; exact own, rfl⟩

theorem readMembers_erase (stores : shape.Stores field part get store erase)
    {bound input rest : List UInt8} {first : Bool} {state last : σ} {value : β}
    (set : get state = some value)
    (read : readMembers shape.readMember bound first state input = .ok (last, rest)) :
    get last = some value ∧
      readMembers shape.readMember bound first (erase state) input = .ok (erase last, rest) := by
  induction bound generalizing first state input with
  | nil => cases read
  | cons _ bound ih =>
    simp only [readMembers, bind_eq_ok] at read ⊢
    obtain ⟨found, next, read⟩ := read
    cases found with
    | none =>
      cases read
      exact ⟨set, none, next, rfl⟩
    | some input =>
      simp only [bind_eq_ok] at read
      obtain ⟨⟨key, after⟩, text, ⟨now, behind⟩, member, read⟩ := read
      -- The field is set, so no other member may have its name.
      have other : key ≠ field.name.toList := by
        rintro rfl
        rw [(stores.readMember_own member).1] at set
        cases set
      have kept := stores.readMember_keeps_stored other _ _ _ _ _ set member
      have erased : shape.readMember key (erase state) after = .ok (erase now, behind) := by
        rw [stores.readMember_mirrors other state after, member]
        rfl
      obtain ⟨known, later⟩ := ih kept read
      refine ⟨known, some input, next, ?_⟩
      simp only [bind_eq_ok]
      exact ⟨(key, after), text, (erase now, behind), erased, later⟩

theorem readMembers_without (stores : shape.Stores field part get store erase)
    (fields : shape.FieldsLocal) (own : IsLocal part) {bound input rest : List UInt8} {first : Bool}
    {state last : σ} {value : β} (unset : get state = none) (set : get last = some value)
    (read : readMembers shape.readMember bound first state input = .ok (last, rest)) :
    ∃ left, CutsMember part field.name value input left ∧ (first = false → Ends left) ∧
      ∀ bound : List UInt8, left.length ≤ bound.length →
        readMembers shape.readMember bound first state left = .ok (erase last, rest) := by
  induction bound generalizing first state input with
  | nil => cases read
  | cons _ bound ih =>
    simp only [readMembers, bind_eq_ok] at read
    obtain ⟨found, next, read⟩ := read
    cases found with
    | none =>
      cases read
      rw [unset] at set
      cases set
    | some input =>
      simp only [bind_eq_ok] at read
      obtain ⟨⟨key, _⟩, keyed, ⟨now, _⟩, member, read⟩ := read
      obtain ⟨before, rfl, separates, separated, nexts⟩ := nextKey_local next
      obtain ⟨name, rfl, texts⟩ := readString_local keyed
      by_cases same : key = field.name.toList
      · subst same
        obtain ⟨_, value, colon, rfl⟩ := stores.readMember_own member
        obtain ⟨written, _, rfl, reads⟩ := own.behindColon _ _ _ colon
        obtain ⟨known, later⟩ := stores.readMembers_erase (stores.get_store value state) read
        rw [stores.erase_store, stores.erase_of_none state unset] at later
        cases set.symm.trans known
        -- The separators before the member go, and if it was the first one, those behind it.
        obtain ⟨trail, after, rfl, between, ends, again⟩ :=
          readMembers_resume (isLocal_readMember fields) later first
        refine ⟨after, ⟨[], before, octet '"' :: (name ++ written), trail, after, by simp, rfl,
          separates, between, name, written, rfl, texts, reads⟩, ends, again⟩
      · have kept := stores.readMember_keeps_stored same _ _ _ _ _ unset member
        obtain ⟨taken, _, rfl, reads⟩ := isLocal_readMember fields _ _ _ _ _ member
        obtain ⟨left, cuts, ends, again⟩ := ih kept read
        have behind := cuts.behind (before ++ octet '"' :: (name ++ taken))
        simp only [List.append_assoc, List.cons_append] at behind
        refine ⟨_, behind, fun notFirst => separated notFirst _, fun bound fits => ?_⟩
        simp only [List.length_append, List.length_cons] at fits
        obtain ⟨_, bound, rfl, enough⟩ :=
          exists_step (Nat.le_trans (by omega : left.length + 1 ≤ _) fits)
        have later := again bound enough
        have member := reads left (ends rfl)
        simp only [readMembers, nexts, texts, member, later, bind, Except.bind]

theorem missing?_erase (stores : shape.Stores field part get store erase) {state : σ}
    (complete : shape.missing? state = none) : shape.missing? (erase state) = none := by
  simp only [RecordShape.missing?, List.find?_eq_none] at complete ⊢
  intro other member
  by_cases same : other.name = field.name
  · simp [stores.hasDefault other member same]
  · rw [(stores.others other member same).isSet]
    exact complete other member

/-- A record is read without one of its members if that is cut out of the text of an object. -/
theorem parse_without (stores : shape.Stores field part get store erase) (fields : shape.FieldsLocal)
    (own : IsLocal part) (start : get shape.start = none) {input inner : List UInt8} {record : α}
    (object : skipBlanks input = octet '\x7b' :: inner) (parsed : shape.parse input = .ok record) :
    ∃ last, shape.build last = record ∧ ∀ value, get last = some value →
      ∃ left, CutsMember part field.name value input left ∧
        shape.parse left = .ok (shape.build (erase last)) := by
  have noList : octet '\x7b' ≠ octet '[' := by decide
  simp only [RecordShape.parse, readWhole, RecordShape.read, object, readAfter, if_neg noList,
    if_true, bind_eq_ok] at parsed
  obtain ⟨⟨_, rest⟩, ⟨⟨last, _⟩, members, read⟩, whole⟩ := parsed
  split at read
  · cases read
  next complete =>
    simp only [bind_eq_ok] at read
    obtain ⟨_, close, same⟩ := read
    cases same
    split at whole
    next blank =>
      cases whole
      refine ⟨last, rfl, fun value set => ?_⟩
      obtain ⟨left, cuts, _, again⟩ := stores.readMembers_without fields own start set members
      obtain ⟨blanks, rfl, _, skips⟩ := skipBlanks_eq_cons object
      have behind := cuts.behind (blanks ++ [octet '\x7b'])
      simp only [List.append_assoc, List.singleton_append] at behind
      refine ⟨_, behind, ?_⟩
      simp only [RecordShape.parse, readWhole, RecordShape.read, skips, readAfter, if_neg noList,
        if_true, again left (Nat.le_refl _), stores.missing?_erase complete, close, blank, bind,
        Except.bind]
    · cases whole

end RecordShape.Stores

end ODataTable.Json
