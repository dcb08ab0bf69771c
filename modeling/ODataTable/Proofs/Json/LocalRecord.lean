import ODataTable.Proofs.Json.LocalValue
import ODataTable.Proofs.Json.Record

/-! What readers of lists and records take of a text.

A list or an object is taken up to its closing bracket. The parts inside are followed by blanks, a
comma or the bracket, and none of these continues a number.
-/

set_option autoImplicit false

namespace ODataTable.Json

variable {α β σ : Type}

/-- Whether whatever is read is a front of the text, read alike before any end. -/
def IsLocal (reader : Reader α) : Prop :=
  ∀ input value rest, reader input = .ok (value, rest) →
    ∃ taken, taken ≠ [] ∧ input = taken ++ rest ∧
      ∀ more, Ends more → reader (taken ++ more) = .ok (value, more)

theorem IsLocal.behind {reader : Reader α} (own : IsLocal reader) {b : UInt8}
    {input rest : List UInt8} {value : α} (read : reader (b :: input) = .ok (value, rest)) :
    ∃ taken, input = taken ++ rest ∧
      ∀ more, Ends more → reader (b :: (taken ++ more)) = .ok (value, more) := by
  obtain ⟨taken, filled, split, reads⟩ := own _ _ _ read
  obtain ⟨_, taken, rfl⟩ := List.exists_cons_of_ne_nil filled
  simp only [List.cons_append, List.cons.injEq] at split
  obtain ⟨rfl, rfl⟩ := split
  exact ⟨taken, rfl, reads⟩

theorem isLocal_skipValue : IsLocal skipValue := by
  intro input value rest read
  simp only [skipValue, bind_eq_ok] at read
  obtain ⟨_, skipped, same⟩ := read
  cases same
  obtain ⟨taken, filled, rfl, skips⟩ := skipNested_local skipped
  refine ⟨taken, filled, rfl, fun more ends => ?_⟩
  have own := skips (taken ++ more) more (by simp) ends
  simp only [skipValue, own, bind, Except.bind]

theorem isLocal_readText : IsLocal readText := by
  intro input text rest read
  unfold readText at read
  split at read
  · cases read
  next b after front =>
    obtain ⟨blanks, rfl, _, start⟩ := skipBlanks_eq_cons front
    split at read
    next quote =>
      simp only [bind_eq_ok] at read
      obtain ⟨⟨text, _⟩, own, same⟩ := read
      cases same
      obtain ⟨taken, rfl, reads⟩ := readString_local own
      refine ⟨blanks ++ b :: taken, by simp, by simp, fun more _ => ?_⟩
      simp only [List.append_assoc, List.cons_append, readText, start, if_pos quote, reads, bind,
        Except.bind]
    · exact absurd read refuse_ne_ok

theorem IsLocal.map {part : Reader α} (own : IsLocal part) (f : α → β) :
    IsLocal (fun input => do
      let (value, input) ← part input
      .ok (f value, input)) := by
  intro input result rest read
  simp only [bind_eq_ok] at read
  obtain ⟨⟨value, _⟩, read, same⟩ := read
  cases same
  obtain ⟨taken, filled, rfl, reads⟩ := own _ _ _ read
  exact ⟨taken, filled, rfl, fun more ends => by simp only [reads more ends, bind, Except.bind]⟩

theorem IsLocal.behindColon {part : Reader α} (own : IsLocal part) :
    IsLocal (fun input => do part (← readColon input)) := by
  intro input value rest read
  simp only [bind_eq_ok] at read
  obtain ⟨_, colon, read⟩ := read
  obtain ⟨before, rfl, colons⟩ := readColon_local colon
  obtain ⟨taken, filled, rfl, reads⟩ := own _ _ _ read
  refine ⟨before ++ taken, by simp [filled], by simp, fun more ends => ?_⟩
  simp only [List.append_assoc, colons, reads more ends, bind, Except.bind]

theorem IsLocal.optional {part : Reader α} (own : IsLocal part) : IsLocal (readOptional part) := by
  intro input value rest read
  unfold readOptional at read
  split at read
  · cases read
  next b after front =>
    obtain ⟨blanks, rfl, _, start⟩ := skipBlanks_eq_cons front
    split at read
    next isNull =>
      simp only [bind_eq_ok] at read
      obtain ⟨⟨_, _⟩, word, same⟩ := read
      cases same
      obtain ⟨taken, rfl, reads⟩ := readLiteral_local word
      refine ⟨blanks ++ b :: taken, by simp, by simp, fun more _ => ?_⟩
      simp only [List.append_assoc, List.cons_append, readOptional, start, if_pos isNull, reads, bind,
        Except.bind]
    next noNull =>
      simp only [bind_eq_ok] at read
      obtain ⟨⟨_, _⟩, read, same⟩ := read
      cases same
      obtain ⟨taken, rfl, reads⟩ := own.behind read
      refine ⟨blanks ++ b :: taken, by simp, by simp, fun more ends => ?_⟩
      simp only [List.append_assoc, List.cons_append, readOptional, start, if_neg noNull,
        reads more ends, bind, Except.bind]

/-- Whether only blanks stand before an octet. -/
def Reaches (b : UInt8) (more : List UInt8) : Prop :=
  ∃ rest, skipBlanks more = b :: rest

theorem Reaches.ends {b : UInt8} {more : List UInt8} (reaches : Reaches b more)
    (plain : continuesNumber b = false) : Ends more := by
  obtain ⟨rest, front⟩ := reaches
  obtain ⟨blanks, rfl, blank, _⟩ := skipBlanks_eq_cons front
  exact ends_separator blank plain rest

theorem Reaches.length_pos {b : UInt8} {more : List UInt8} (reaches : Reaches b more) :
    0 < more.length := by
  obtain ⟨rest, front⟩ := reaches
  obtain ⟨blanks, rfl, _⟩ := skipBlanks_eq_cons front
  exact List.length_pos_of_mem List.mem_append_cons_self

/-- Whether only blanks stand before the end of a list. -/
def ListEnds (more : List UInt8) : Prop :=
  Reaches (octet ']') more

theorem ListEnds.ends {more : List UInt8} (closes : ListEnds more) : Ends more :=
  Reaches.ends closes (by decide)

theorem nextItem_eq_none {first : Bool} {input : List UInt8} :
    nextItem first input = .ok none ↔ ListEnds input := by
  unfold nextItem ListEnds Reaches
  split
  next front => simp [front]
  next b rest front =>
    rw [front]
    by_cases bracket : b = octet ']'
    · simp [bracket]
    · refine iff_of_false (fun none => ?_) fun ⟨_, same⟩ => bracket (List.cons.inj same).1
      rw [if_neg bracket] at none
      repeat' split at none
      all_goals cases none

theorem nextItem_local {first : Bool} {input rest : List UInt8}
    (next : nextItem first input = .ok (some rest)) :
    ∃ before b behind, rest = b :: behind ∧ input = before ++ rest ∧
      (first = false → ∀ more, Ends (before ++ more)) ∧
      ∀ more, nextItem first (before ++ b :: more) = .ok (some (b :: more)) := by
  unfold nextItem at next
  split at next
  · cases next
  next b after front =>
    obtain ⟨blanks, rfl, blank, start⟩ := skipBlanks_eq_cons front
    split at next
    · cases next
    next noBracket =>
      cases first with
      | true =>
        cases next
        exact ⟨blanks, b, after, rfl, rfl, nofun, fun more => by simp [nextItem, start, noBracket]⟩
      | false =>
        simp only [Bool.false_eq_true, if_false] at next
        split at next
        next comma =>
          split at next
          · cases next
          next c after front =>
            obtain ⟨others, rfl, _, again⟩ := skipBlanks_eq_cons front
            split at next
            · cases next
            next noEnd =>
              cases next
              have plain : continuesNumber b = false := by rw [comma]; decide
              refine ⟨blanks ++ b :: others, c, after, rfl, by simp, fun _ more => ?_, fun more => ?_⟩
              · rw [List.append_assoc, List.cons_append]
                exact ends_separator blank plain _
              · simp only [List.append_assoc, List.cons_append, nextItem, start, if_neg noBracket,
                  Bool.false_eq_true, if_false, if_pos comma, again, if_neg noEnd]
        · cases next

theorem closeList_local {input rest : List UInt8} (close : closeList input = .ok rest) :
    ∃ taken, input = taken ++ rest ∧ ∀ more, ListEnds (taken ++ more) ∧
      closeList (taken ++ more) = .ok more := by
  unfold closeList at close
  split at close
  · cases close
  next b after front =>
    obtain ⟨blanks, rfl, _, start⟩ := skipBlanks_eq_cons front
    split at close
    next bracket =>
      cases close
      refine ⟨blanks ++ [b], by simp, fun more => ⟨⟨more, ?_⟩, ?_⟩⟩
      · rw [List.append_assoc, List.singleton_append, start, bracket]
      · simp only [List.append_assoc, List.singleton_append, closeList, start, if_pos bracket]
    · repeat' split at close
      all_goals cases close

theorem readItems_local {item : Reader α} (own : IsLocal item) {bound input rest : List UInt8}
    {first : Bool} {values : List α}
    (read : readItems item bound first input = .ok (values, rest)) :
    ∃ taken, input = taken ++ rest ∧ ∀ more, ListEnds more →
      (first = false → Ends (taken ++ more)) ∧ ∀ bound : List UInt8, taken.length < bound.length →
        readItems item bound first (taken ++ more) = .ok (values, more) := by
  induction bound generalizing first input values with
  | nil => cases read
  | cons _ bound ih =>
    simp only [readItems, bind_eq_ok] at read
    obtain ⟨found, next, read⟩ := read
    cases found with
    | none =>
      cases read
      refine ⟨[], rfl, fun more closes => ⟨fun _ => closes.ends, fun bound fits => ?_⟩⟩
      obtain ⟨_, bound, rfl, fits⟩ := exists_step fits
      simp only [List.nil_append, readItems, nextItem_eq_none.mpr closes, bind, Except.bind]
    | some input =>
      simp only [bind_eq_ok] at read
      obtain ⟨⟨value, _⟩, part, ⟨others, _⟩, later, same⟩ := read
      cases same
      obtain ⟨before, b, behind, rfl, rfl, separated, nexts⟩ := nextItem_local next
      -- The octet that was looked at before the item is the first one of the item.
      obtain ⟨front, rfl, reads⟩ := own.behind part
      obtain ⟨taken, rfl, laters⟩ := ih later
      refine ⟨before ++ b :: (front ++ taken), by simp, fun more closes => ⟨fun notFirst => ?_, ?_⟩⟩
      · rw [List.append_assoc]
        exact separated notFirst _
      · intro bound fits
        obtain ⟨_, bound, rfl, fits⟩ := exists_step fits
        obtain ⟨ends, rest⟩ := laters more closes
        have enough : taken.length < bound.length := by simp at fits; omega
        simp only [List.append_assoc, List.cons_append, readItems, nexts, reads _ (ends rfl),
          rest bound enough, bind, Except.bind]

theorem readList_local {item : Reader α} (own : IsLocal item) {input rest : List UInt8}
    {values : List α} (read : readList item input = .ok (values, rest)) :
    ∃ taken, input = taken ++ rest ∧
      ∀ more, readList item (taken ++ more) = .ok (values, more) := by
  simp only [readList, bind_eq_ok] at read
  obtain ⟨⟨values, _⟩, items, _, close, same⟩ := read
  cases same
  obtain ⟨front, rfl, reads⟩ := readItems_local own items
  obtain ⟨taken, rfl, closes⟩ := closeList_local close
  refine ⟨front ++ taken, by simp, fun more => ?_⟩
  obtain ⟨ends, closed⟩ := closes more
  have fits : front.length < (front ++ (taken ++ more)).length := by
    simpa using ends.length_pos
  simp only [List.append_assoc, readList, (reads _ ends).2 _ fits, closed, bind, Except.bind]

theorem IsLocal.sequence {item : Reader α} (own : IsLocal item) : IsLocal (readSequence item) := by
  intro input values rest read
  unfold readSequence at read
  split at read
  · cases read
  next b after front =>
    obtain ⟨blanks, rfl, _, start⟩ := skipBlanks_eq_cons front
    split at read
    next bracket =>
      obtain ⟨taken, rfl, reads⟩ := readList_local own read
      refine ⟨blanks ++ b :: taken, by simp, by simp, fun more _ => ?_⟩
      simp only [List.append_assoc, List.cons_append, readSequence, start, if_pos bracket, reads]
    · exact absurd read refuse_ne_ok

def ObjectEnds (more : List UInt8) : Prop :=
  Reaches (octet '\x7d') more

theorem ObjectEnds.ends {more : List UInt8} (closes : ObjectEnds more) : Ends more :=
  Reaches.ends closes (by decide)

/-- Whether only blanks and commas stand here, as they do between members. -/
def Separates (text : List UInt8) : Prop :=
  ∀ b ∈ text, isBlank b = true ∨ b = octet ','

theorem separates_nil : Separates [] := List.forall_mem_nil _

theorem nextKey_first (more : List UInt8) : nextKey true (octet '"' :: more) = .ok (some more) := by
  have quote : isBlank (octet '"') = false := by decide
  have other : octet '"' ≠ octet '\x7d' := by decide
  simp [nextKey, skipBlanks, quote, other]

theorem nextKey_eq_none {first : Bool} {input : List UInt8} :
    nextKey first input = .ok none ↔ ObjectEnds input := by
  unfold nextKey ObjectEnds Reaches
  split
  next front => simp [front]
  next b rest front =>
    rw [front]
    by_cases brace : b = octet '\x7d'
    · simp [brace]
    · refine iff_of_false (fun none => ?_) fun ⟨_, same⟩ => brace (List.cons.inj same).1
      rw [if_neg brace] at none
      repeat' split at none
      all_goals cases none

theorem nextKey_local {first : Bool} {input rest : List UInt8}
    (next : nextKey first input = .ok (some rest)) :
    ∃ before, input = before ++ octet '"' :: rest ∧ Separates before ∧
      (first = false → ∀ more, Ends (before ++ more)) ∧
      ∀ more, nextKey first (before ++ octet '"' :: more) = .ok (some more) := by
  unfold nextKey at next
  split at next
  · cases next
  next b after front =>
    obtain ⟨blanks, rfl, blank, start⟩ := skipBlanks_eq_cons front
    split at next
    · cases next
    next noBrace =>
      cases first with
      | true =>
        simp only [if_true] at next
        split at next
        next quote =>
          cases next
          subst b
          refine ⟨blanks, rfl, fun c member => .inl (blank c member), nofun, fun more => ?_⟩
          simp only [nextKey, start, if_neg noBrace, if_true]
        · cases next
      | false =>
        simp only [Bool.false_eq_true, if_false] at next
        split at next
        next comma =>
          split at next
          · cases next
          next c after front =>
            obtain ⟨others, rfl, otherBlank, again⟩ := skipBlanks_eq_cons front
            split at next
            next quote =>
              cases next
              subst c
              have plain : continuesNumber b = false := by rw [comma]; decide
              refine ⟨blanks ++ b :: others, by simp, ?_, fun _ more => ?_, fun more => ?_⟩
              · intro c member
                rcases List.mem_append.mp member with member | member
                · exact .inl (blank c member)
                rcases List.mem_cons.mp member with rfl | member
                · exact .inr comma
                · exact .inl (otherBlank c member)
              · rw [List.append_assoc, List.cons_append]
                exact ends_separator blank plain _
              · simp only [List.append_assoc, List.cons_append, nextKey, start, if_neg noBrace,
                  Bool.false_eq_true, if_false, if_pos comma, again, if_true]
            · split at next <;> cases next
        · cases next

theorem closeObject_local {input rest : List UInt8} (close : closeObject input = .ok rest) :
    ∃ taken, input = taken ++ rest ∧ ∀ more, ObjectEnds (taken ++ more) ∧
      closeObject (taken ++ more) = .ok more := by
  unfold closeObject at close
  split at close
  · cases close
  next b after front =>
    obtain ⟨blanks, rfl, _, start⟩ := skipBlanks_eq_cons front
    split at close
    next brace =>
      cases close
      refine ⟨blanks ++ [b], by simp, fun more => ⟨⟨more, ?_⟩, ?_⟩⟩
      · rw [List.append_assoc, List.singleton_append, start, brace]
      · simp only [List.append_assoc, List.singleton_append, closeObject, start, if_pos brace]
    · split at close <;> cases close

theorem readMembers_local {member : List Char → σ → Reader σ}
    (own : ∀ key state, IsLocal (member key state)) {bound input rest : List UInt8} {first : Bool}
    {state last : σ} (read : readMembers member bound first state input = .ok (last, rest)) :
    ObjectEnds rest ∧ ∃ taken, input = taken ++ rest ∧ ∀ more, ObjectEnds more →
      (first = false → Ends (taken ++ more)) ∧ ∀ bound : List UInt8, taken.length < bound.length →
        readMembers member bound first state (taken ++ more) = .ok (last, more) := by
  induction bound generalizing first input state with
  | nil => cases read
  | cons _ bound ih =>
    simp only [readMembers, bind_eq_ok] at read
    obtain ⟨found, next, read⟩ := read
    cases found with
    | none =>
      cases read
      refine ⟨nextKey_eq_none.mp next, [], rfl, fun more closes => ⟨fun _ => closes.ends, ?_⟩⟩
      intro bound fits
      obtain ⟨_, bound, rfl, fits⟩ := exists_step fits
      simp only [List.nil_append, readMembers, nextKey_eq_none.mpr closes, bind, Except.bind]
    | some input =>
      simp only [bind_eq_ok] at read
      obtain ⟨⟨key, _⟩, text, ⟨now, _⟩, part, read⟩ := read
      obtain ⟨before, rfl, _, separated, nexts⟩ := nextKey_local next
      obtain ⟨name, rfl, texts⟩ := readString_local text
      obtain ⟨front, _, rfl, reads⟩ := own _ _ _ _ _ part
      obtain ⟨closes, taken, rfl, laters⟩ := ih read
      refine ⟨closes, before ++ octet '"' :: (name ++ (front ++ taken)), by simp,
        fun more closes => ⟨fun notFirst => ?_, ?_⟩⟩
      · rw [List.append_assoc]
        exact separated notFirst _
      · intro bound fits
        obtain ⟨_, bound, rfl, fits⟩ := exists_step fits
        obtain ⟨ends, rest⟩ := laters more closes
        have enough : taken.length < bound.length := by simp at fits; omega
        simp only [List.append_assoc, List.cons_append, readMembers, nexts, texts,
          reads _ (ends rfl), rest bound enough, bind, Except.bind]

section
variable {member : List Char → σ → Reader σ} (own : ∀ key state, IsLocal (member key state))
  {bound input rest : List UInt8} {state last : σ}
  (read : readMembers member bound false state input = .ok (last, rest))
include own read

theorem readMembers_rebound : Ends input ∧ ∀ bound : List UInt8, input.length ≤ bound.length →
    readMembers member bound false state input = .ok (last, rest) := by
  obtain ⟨closes, taken, rfl, reads⟩ := readMembers_local own read
  obtain ⟨ends, again⟩ := reads rest closes
  refine ⟨ends rfl, fun bound fits => again bound ?_⟩
  have filled := closes.length_pos
  rw [List.length_append] at fits
  omega

/-- Members that followed on others are the first ones once the comma before them is dropped. -/
theorem readMembers_restart : ∃ trail after, input = trail ++ after ∧ Separates trail ∧
    ∀ bound : List UInt8, after.length ≤ bound.length →
      readMembers member bound true state after = .ok (last, rest) := by
  cases bound with
  | nil => cases read
  | cons _ bound =>
    simp only [readMembers, bind_eq_ok] at read
    obtain ⟨found, next, read⟩ := read
    cases found with
    | none =>
      cases read
      have closes := nextKey_eq_none.mp next
      refine ⟨[], input, rfl, separates_nil, fun bound fits => ?_⟩
      obtain ⟨_, bound, rfl, fits⟩ := exists_step (Nat.le_trans closes.length_pos fits)
      simp only [readMembers, nextKey_eq_none.mpr closes, bind, Except.bind]
    | some behind =>
      obtain ⟨trail, rfl, separates, _⟩ := nextKey_local next
      simp only [bind_eq_ok] at read
      obtain ⟨⟨key, _⟩, text, ⟨now, _⟩, part, read⟩ := read
      obtain ⟨name, rfl, _⟩ := readString_local text
      obtain ⟨front, _, rfl, _⟩ := own _ _ _ _ _ part
      refine ⟨trail, _, rfl, separates, fun bound fits => ?_⟩
      obtain ⟨_, bound, rfl, fits⟩ := exists_step fits
      have enough := (readMembers_rebound own read).2 bound (by simp at fits ⊢; omega)
      simp only [readMembers, nextKey_first, text, part, enough, bind, Except.bind]

theorem readMembers_resume (first : Bool) : ∃ trail after, input = trail ++ after ∧
    Separates trail ∧ (first = false → Ends after) ∧
      ∀ bound : List UInt8, after.length ≤ bound.length →
        readMembers member bound first state after = .ok (last, rest) := by
  cases first with
  | false =>
    obtain ⟨ends, again⟩ := readMembers_rebound own read
    exact ⟨[], input, rfl, separates_nil, fun _ => ends, again⟩
  | true =>
    obtain ⟨trail, after, split, between, again⟩ := readMembers_restart own read
    exact ⟨trail, after, split, between, fun later => absurd later (by decide), again⟩

end

namespace RecordShape

variable {shape : RecordShape σ α}

def FieldsLocal (shape : RecordShape σ α) : Prop :=
  ∀ field ∈ shape.fields, ∀ state, IsLocal (field.read state)

theorem isLocal_readMember (fields : shape.FieldsLocal) (key : List Char) (state : σ) :
    IsLocal (shape.readMember key state) := by
  unfold readMember
  cases found : shape.fields.find? (fun field => field.name.toList == key) with
  | none => exact (isLocal_skipValue.map fun _ => state).behindColon
  | some field =>
    dsimp only
    split
    · intro input value rest read
      cases read
    · exact (fields field (List.mem_of_find?_eq_some found) state).behindColon

theorem readOrdered_of_ends {fields : List (RecordField σ)} {index : Nat} {state last : σ}
    {input rest more : List UInt8} (ends : ListEnds input) (closes : ListEnds more)
    (read : shape.readOrdered index fields state input = .ok (last, rest)) :
    rest = input ∧ shape.readOrdered index fields state more = .ok (last, more) := by
  induction fields with
  | nil =>
    cases read
    exact ⟨rfl, rfl⟩
  | cons field fields ih =>
    simp only [readOrdered, nextItem_eq_none.mpr ends, nextItem_eq_none.mpr closes, bind,
      Except.bind] at read ⊢
    split at read
    next hasDefault =>
      rw [if_pos hasDefault]
      exact ih read
    · cases read

theorem readOrdered_local {fields : List (RecordField σ)}
    (own : ∀ field ∈ fields, ∀ state, IsLocal (field.read state)) {index : Nat} {state last : σ}
    {input rest : List UInt8}
    (read : shape.readOrdered index fields state input = .ok (last, rest)) :
    ∃ taken, input = taken ++ rest ∧ ∀ more, ListEnds more →
      (index ≠ 0 → Ends (taken ++ more)) ∧
        shape.readOrdered index fields state (taken ++ more) = .ok (last, more) := by
  induction fields generalizing index state input with
  | nil =>
    cases read
    exact ⟨[], rfl, fun more closes => ⟨fun _ => closes.ends, rfl⟩⟩
  | cons field fields ih =>
    have others : ∀ field ∈ fields, ∀ state, IsLocal (field.read state) :=
      fun other member => own other (List.mem_cons_of_mem _ member)
    have whole := read
    simp only [readOrdered, bind_eq_ok] at read
    obtain ⟨found, next, read⟩ := read
    cases found with
    | none =>
      -- Nothing is taken from here on.
      have ends := nextItem_eq_none.mp next
      obtain ⟨rfl, _⟩ := readOrdered_of_ends ends ends whole
      exact ⟨[], rfl, fun more closes =>
        ⟨fun _ => closes.ends, (readOrdered_of_ends ends closes whole).2⟩⟩
    | some input =>
      simp only [bind_eq_ok] at read
      obtain ⟨⟨now, _⟩, part, read⟩ := read
      obtain ⟨before, b, behind, rfl, rfl, separated, nexts⟩ := nextItem_local next
      obtain ⟨front, rfl, reads⟩ := (own field List.mem_cons_self _).behind part
      obtain ⟨taken, rfl, laters⟩ := ih others read
      refine ⟨before ++ b :: (front ++ taken), by simp, fun more closes => ⟨fun later => ?_, ?_⟩⟩
      · rw [List.append_assoc]
        exact separated (by simpa using later) _
      · obtain ⟨ends, rest⟩ := laters more closes
        have now := reads (taken ++ more) (ends (Nat.succ_ne_zero index))
        simp only [List.append_assoc, List.cons_append, readOrdered, nexts, now, rest, bind,
          Except.bind]

/-- A record is taken up to its closing bracket, however it is written. -/
theorem isLocal_read (fields : shape.FieldsLocal) : IsLocal shape.read := by
  intro input record rest read
  unfold RecordShape.read at read
  split at read
  · cases read
  next b after front =>
    obtain ⟨blanks, rfl, _, start⟩ := skipBlanks_eq_cons front
    unfold readAfter at read
    split at read
    next bracket =>
      simp only [bind_eq_ok] at read
      obtain ⟨⟨last, _⟩, ordered, _, close, same⟩ := read
      cases same
      obtain ⟨inner, rfl, reads⟩ := readOrdered_local fields ordered
      obtain ⟨taken, rfl, closes⟩ := closeList_local close
      refine ⟨blanks ++ b :: (inner ++ taken), by simp, by simp, fun more _ => ?_⟩
      obtain ⟨ends, closed⟩ := closes more
      simp only [List.append_assoc, List.cons_append, RecordShape.read, start, readAfter,
        if_pos bracket, (reads _ ends).2, closed, bind, Except.bind]
    next noList =>
      split at read
      next brace =>
        simp only [bind_eq_ok] at read
        obtain ⟨⟨last, _⟩, members, read⟩ := read
        split at read
        · cases read
        next complete =>
          simp only [bind_eq_ok] at read
          obtain ⟨_, close, same⟩ := read
          cases same
          obtain ⟨_, inner, rfl, reads⟩ := readMembers_local (isLocal_readMember fields) members
          obtain ⟨taken, rfl, closes⟩ := closeObject_local close
          refine ⟨blanks ++ b :: (inner ++ taken), by simp, by simp, fun more _ => ?_⟩
          obtain ⟨ends, closed⟩ := closes more
          have fits : inner.length < (inner ++ (taken ++ more)).length := by
            simpa using ends.length_pos
          simp only [List.append_assoc, List.cons_append, RecordShape.read, start, readAfter,
            if_neg noList, if_pos brace, (reads _ ends).2 _ fits, complete, closed, bind, Except.bind]
      · exact absurd read refuse_ne_ok

end RecordShape

end ODataTable.Json
