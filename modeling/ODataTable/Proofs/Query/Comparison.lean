import ODataTable.Proofs.Query.Window
import ODataTable.Proofs.Text.Split

/-! Filters that are read back as the comparisons they make.

A filter is a row of tokens between single spaces: a quoted text runs to its closing quote, and any
other token to the next space. Three tokens make a comparison, and the token `and` joins it to the
next one. It is its place that tells a joining `and`, so a name, an operator or a value may be the
same word.
-/

set_option autoImplicit false

namespace ODataTable

inductive Token where
  | word (text : List Char)
  | quoted (text : List Char)
  deriving DecidableEq, Repr

namespace Token

def write : Token → List Char
  | .word text => text
  | .quoted text => '\'' :: text ++ ['\'']

def read? : List Char → Option (Token × List Char)
  | [] => none
  | c :: rest =>
    if c = '\'' then
      match cutWhere (· = '\'') rest with
      | (text, some behind) => some (.quoted text, behind)
      | (_, none) => none
    else if c = ' ' then none
    else some (.word (c :: rest.takeWhile (· ≠ ' ')), rest.dropWhile (· ≠ ' '))

theorem read?_shorter {text rest : List Char} {token : Token}
    (read : read? text = some (token, rest)) : rest.length < text.length := by
  cases text with
  | nil => cases read
  | cons c behind =>
    simp only [read?] at read
    split at read
    · split at read
      next cut =>
        cases read
        obtain ⟨separator, rfl, _, _⟩ := cutWhere_eq_some cut
        simp only [List.length_cons, List.length_append]
        omega
      · cases read
    split at read
    · cases read
    · cases read
      have shorter := (List.dropWhile_suffix (p := (· ≠ ' ')) (l := behind)).length_le
      simp only [List.length_cons]
      omega

/-- Read the tokens of a text with one space between each of them and the next. -/
def readAll? (text : List Char) : Option (List Token) :=
  match _read : read? text with
  | none => none
  | some (token, []) => some [token]
  | some (token, c :: rest) => if c = ' ' then (readAll? rest).map (token :: ·) else none
termination_by text.length
decreasing_by
  have := read?_shorter _read
  simp only [List.length_cons] at this
  omega

def IsWord (text : List Char) : Prop :=
  text ≠ [] ∧ ' ' ∉ text ∧ '\'' ∉ text

def IsPlain : Token → Prop
  | .word text => IsWord text
  | .quoted text => '\'' ∉ text

/-- A token ends before a space and at the end of the text. -/
theorem read?_write {token : Token} (plain : token.IsPlain) {rest : List Char}
    (ends : rest = [] ∨ ∃ more, rest = ' ' :: more) :
    read? (token.write ++ rest) = some (token, rest) := by
  cases token with
  | word text =>
    obtain ⟨filled, noSpace, noQuote⟩ := plain
    cases text with
    | nil => exact absurd rfl filled
    | cons c text =>
      have space : c ≠ ' ' := fun same => noSpace (same ▸ List.mem_cons_self)
      have quote : c ≠ '\'' := fun same => noQuote (same ▸ List.mem_cons_self)
      have kept : ∀ d ∈ text, decide (d ≠ ' ') = true := by
        intro d member
        rw [decide_eq_true_eq]
        exact fun same => noSpace (same ▸ List.mem_cons_of_mem c member)
      have stop : rest.takeWhile (· ≠ ' ') = [] ∧ rest.dropWhile (· ≠ ' ') = rest := by
        rcases ends with rfl | ⟨more, rfl⟩
        · exact ⟨rfl, rfl⟩
        · exact ⟨rfl, rfl⟩
      simp only [write, List.cons_append, read?, space, quote, if_false,
        List.takeWhile_append_of_pos kept, List.dropWhile_append_of_pos kept, stop.1, stop.2,
        List.append_nil]
  | quoted text =>
    have free : ∀ d ∈ text, decide (d = '\'') = false := by
      intro d member
      rw [decide_eq_false_iff_not]
      exact fun same => plain (same ▸ member)
    have cut := cutWhere_append_cons free (decide_eq_true rfl) rest
    simp only [write, List.cons_append, List.append_assoc, List.nil_append, read?, if_true, cut]

theorem readAll?_last {token : Token} (plain : token.IsPlain) :
    readAll? token.write = some [token] := by
  have read := read?_write plain (.inl rfl)
  rw [List.append_nil] at read
  rw [readAll?]
  split
  next unread => rw [read] at unread; cases unread
  next other found => rw [read] at found; cases found; rfl
  next other c rest found => rw [read] at found; cases found

theorem readAll?_cons {token : Token} (plain : token.IsPlain) (more : List Char) :
    readAll? (token.write ++ ' ' :: more) = (readAll? more).map (token :: ·) := by
  have read := read?_write plain (.inr ⟨more, rfl⟩)
  rw [readAll?]
  split
  next unread => rw [read] at unread; cases unread
  next other found => rw [read] at found; cases found
  next other c rest found => rw [read] at found; cases found; rw [if_pos rfl]

def joiner : Token := .word "and".toList

theorem joiner_isPlain : joiner.IsPlain :=
  ⟨by decide, by decide, by decide⟩

end Token

/-- A comparison as it stands in a filter, with a word or a quoted text on its right side. -/
structure Comparison where
  name : List Char
  operator : List Char
  operand : Token
  deriving DecidableEq, Repr

namespace Comparison

def tokens (comparison : Comparison) : List Token :=
  [.word comparison.name, .word comparison.operator, comparison.operand]

def write (comparison : Comparison) : List Char :=
  comparison.name ++ ' ' :: comparison.operator ++ ' ' :: comparison.operand.write

def ofTokens? : List Token → Option (List Comparison)
  | .word name :: .word operator :: operand :: rest =>
    match rest with
    | [] => some [{ name, operator, operand }]
    | joining :: rest =>
      if joining = Token.joiner then (ofTokens? rest).map ({ name, operator, operand } :: ·)
      else none
  | _ => none

structure IsPlain (comparison : Comparison) : Prop where
  name : Token.IsWord comparison.name
  operator : Token.IsWord comparison.operator
  operand : comparison.operand.IsPlain

theorem ofTokens?_last (comparison : Comparison) :
    ofTokens? comparison.tokens = some [comparison] := rfl

theorem ofTokens?_joined (comparison : Comparison) (rest : List Token) :
    ofTokens? (comparison.tokens ++ Token.joiner :: rest) =
      (ofTokens? rest).map (comparison :: ·) := by
  simp only [tokens, List.cons_append, List.nil_append, ofTokens?, if_true]

variable {comparison : Comparison} (plain : comparison.IsPlain)
include plain

theorem readAll?_write : Token.readAll? comparison.write = some comparison.tokens := by
  have name := @Token.readAll?_cons (.word comparison.name) plain.name
  have operator := @Token.readAll?_cons (.word comparison.operator) plain.operator
  have operand := Token.readAll?_last plain.operand
  simp only [Token.write] at name operator
  simp only [write, List.append_assoc, List.cons_append, name, operator, operand, Option.map_some,
    tokens]

theorem readAll?_joined (more : List Char) :
    Token.readAll? (comparison.write ++ " and ".toList ++ more) =
      (Token.readAll? more).map (comparison.tokens ++ Token.joiner :: ·) := by
  have name := @Token.readAll?_cons (.word comparison.name) plain.name
  have operator := @Token.readAll?_cons (.word comparison.operator) plain.operator
  have operand := Token.readAll?_cons plain.operand
  have joining := Token.readAll?_cons Token.joiner_isPlain more
  have spaced : " and ".toList ++ more = ' ' :: (Token.joiner.write ++ ' ' :: more) := rfl
  simp only [Token.write] at name operator
  simp only [write, List.append_assoc, List.cons_append, spaced, name, operator, operand, joining,
    Option.map_map, tokens]
  rfl

end Comparison

def Condition.comparison (condition : Condition) : Comparison where
  name := condition.property.name.toList
  operator := condition.operator.toList
  operand :=
    if condition.property.typeName = .string then .quoted condition.value.toList
    else .word condition.value.toList

/-- Names, operators and values that are not quoted are words, and no quoted text holds a quote. -/
structure Condition.IsReadable (condition : Condition) : Prop where
  name : Token.IsWord condition.property.name.toList
  operator : Token.IsWord condition.operator.toList
  text : condition.property.typeName = .string → '\'' ∉ condition.value.toList
  value : condition.property.typeName ≠ .string → Token.IsWord condition.value.toList

theorem Condition.IsReadable.comparison {condition : Condition} (readable : condition.IsReadable) :
    condition.comparison.IsPlain := by
  refine ⟨readable.name, readable.operator, ?_⟩
  simp only [Condition.comparison]
  split
  next text => exact readable.text text
  next other => exact readable.value other

theorem Condition.clause_eq (condition : Condition) :
    condition.clause = condition.comparison.write := by
  have literal : condition.literal = condition.comparison.operand.write := by
    simp only [Condition.literal, Condition.comparison]
    split
    next text => rw [text, if_pos rfl]; rfl
    next other => rw [if_neg other]; rfl
  rw [Condition.clause, literal]
  rfl

/-- The comparisons that keep a property within a window: from its start, and up to its stop. -/
def TimeRange.comparisons (range : TimeRange) (name : String) : List Comparison :=
  [{ name := name.toList, operator := ['g', 'e'], operand := .word range.start.writeBound },
   { name := name.toList, operator := ['l', 'e'], operand := .word range.stop.writeBound }]

namespace Filter

/-- The comparisons that a filter makes: with the bounds of the window if there is one, then with
the conditions. -/
def comparisons (timeProperty : Option Property) (range : Option TimeRange)
    (conditions : List Condition) : List Comparison :=
  let window :=
    match timeProperty, range with
    | some property, some range => range.comparisons property.name
    | _, _ => []
  window ++ conditions.map Condition.comparison

def read? (text : List Char) : Option (List Comparison) :=
  if text = [] then some [] else (Token.readAll? text).bind Comparison.ofTokens?

theorem readAll?_intercalate {first : Comparison} {rest : List Comparison}
    (plain : ∀ comparison ∈ first :: rest, comparison.IsPlain) :
    ∃ tokens, Token.readAll?
        (List.intercalate " and ".toList ((first :: rest).map Comparison.write)) = some tokens ∧
      Comparison.ofTokens? tokens = some (first :: rest) := by
  induction rest generalizing first with
  | nil =>
    refine ⟨first.tokens, ?_, Comparison.ofTokens?_last first⟩
    rw [List.map_singleton, List.intercalate_singleton,
      Comparison.readAll?_write (plain first List.mem_cons_self)]
  | cons next rest ih =>
    obtain ⟨tokens, read, grouped⟩ :=
      @ih next fun other member => plain other (List.mem_cons_of_mem first member)
    refine ⟨first.tokens ++ Token.joiner :: tokens, ?_, ?_⟩
    · rw [List.map_cons, List.map_cons, List.intercalate_cons_cons,
        Comparison.readAll?_joined (plain first List.mem_cons_self), ← List.map_cons, read,
        Option.map_some]
    · rw [Comparison.ofTokens?_joined, grouped, Option.map_some]

theorem read?_intercalate {comparisons : List Comparison}
    (plain : ∀ comparison ∈ comparisons, comparison.IsPlain) :
    read? (List.intercalate " and ".toList (comparisons.map Comparison.write)) =
      some comparisons := by
  cases comparisons with
  | nil => rfl
  | cons first rest =>
    have filled : List.intercalate " and ".toList ((first :: rest).map Comparison.write) ≠ [] := by
      cases rest <;> simp [Comparison.write]
    obtain ⟨tokens, read, grouped⟩ := readAll?_intercalate plain
    rw [read?, if_neg filled, read, Option.bind_some, grouped]

theorem intercalate_window (range : TimeRange) (name : String) (clauses : List (List Char)) :
    List.intercalate " and ".toList (range.clause name :: clauses) =
      List.intercalate " and ".toList
        ((range.comparisons name).map Comparison.write ++ clauses) := by
  simp only [TimeRange.comparisons, TimeRange.clause, Comparison.write, Token.write, List.map_cons,
    List.map_nil, List.cons_append, List.nil_append, List.intercalate_cons_cons]
  cases clauses with
  | nil =>
    simp only [List.intercalate_singleton, List.append_assoc, List.cons_append, List.nil_append]
  | cons clause rest =>
    simp only [List.intercalate_cons_cons, List.append_assoc, List.cons_append, List.nil_append]

theorem write_eq (timeProperty : Option Property) (range : Option TimeRange)
    (conditions : List Condition) :
    write timeProperty range conditions =
      List.intercalate " and ".toList
        ((comparisons timeProperty range conditions).map Comparison.write) := by
  have each : (conditions.map Condition.comparison).map Comparison.write =
      conditions.map Condition.clause := by
    rw [List.map_map]
    exact List.map_congr_left fun condition _ => condition.clause_eq.symm
  cases timeProperty with
  | none => exact congrArg (List.intercalate " and ".toList) each.symm
  | some property =>
    cases range with
    | none => exact congrArg (List.intercalate " and ".toList) each.symm
    | some range =>
      simp only [write, clauses, comparisons, List.map_append, each, List.cons_append,
        List.nil_append, intercalate_window]

theorem isWord_writeBound (instant : Instant) : Token.IsWord instant.writeBound := by
  have clock := instant.wholeSecond.isClockChar_writeJson
  rw [← Instant.writeBound_eq] at clock
  refine ⟨by simp [Instant.writeBound], fun space => ?_, fun quote => ?_⟩
  · exact absurd (clock _ space) (by decide)
  · exact absurd (clock _ quote) (by decide)

/-- What a filter can be read back from: the name of the time property is a word, and all conditions
are readable. -/
structure IsReadable (timeProperty : Option Property) (conditions : List Condition) : Prop where
  time : ∀ property ∈ timeProperty, Token.IsWord property.name.toList
  conditions : ∀ condition ∈ conditions, condition.IsReadable

theorem IsReadable.comparisons {timeProperty : Option Property} {conditions : List Condition}
    (readable : IsReadable timeProperty conditions) (range : Option TimeRange) :
    ∀ comparison ∈ comparisons timeProperty range conditions, comparison.IsPlain := by
  unfold Filter.comparisons
  refine List.forall_mem_append.mpr ⟨?_, ?_⟩
  · split
    next property range =>
      have name := readable.time property rfl
      have ge : Token.IsWord ['g', 'e'] := ⟨by decide, by decide, by decide⟩
      have le : Token.IsWord ['l', 'e'] := ⟨by decide, by decide, by decide⟩
      exact List.forall_mem_cons.mpr ⟨⟨name, ge, isWord_writeBound _⟩,
        List.forall_mem_cons.mpr ⟨⟨name, le, isWord_writeBound _⟩, List.forall_mem_nil _⟩⟩
    · exact List.forall_mem_nil _
  · refine List.forall_mem_map.mpr fun condition member => ?_
    exact (readable.conditions condition member).comparison

/-- A filter is read back as the comparisons that it was written from, in their order. So filters of
one text make the same comparisons. -/
theorem write_readsBack {timeProperty : Option Property} {conditions : List Condition}
    (readable : IsReadable timeProperty conditions) (range : Option TimeRange) :
    read? (write timeProperty range conditions) =
      some (comparisons timeProperty range conditions) ∧
    ∀ (timeProperty' : Option Property) (range' : Option TimeRange) (conditions' : List Condition),
      IsReadable timeProperty' conditions' →
      write timeProperty' range' conditions' = write timeProperty range conditions →
      comparisons timeProperty' range' conditions' = comparisons timeProperty range conditions := by
  have read : read? (write timeProperty range conditions) =
      some (comparisons timeProperty range conditions) := by
    rw [write_eq]
    exact read?_intercalate (readable.comparisons range)
  refine ⟨read, fun timeProperty' range' conditions' readable' same => ?_⟩
  have read' := read?_intercalate (readable'.comparisons range')
  rw [← write_eq, same, read] at read'
  exact (Option.some.inj read').symm

/-- A name, an operator and a value that are the joining word, and a text that looks like more
clauses. -/
theorem write_readsBack_and :
    IsReadable (some ⟨"and", .dateTime⟩)
        [⟨⟨"and", .int32⟩, "and", "and"⟩, ⟨⟨"s", .string⟩, "eq", " and x ge 1 and "⟩] ∧
      read? (write (some ⟨"and", .dateTime⟩) (some ⟨⟨-1, 0⟩, ⟨0, 0⟩⟩)
          [⟨⟨"and", .int32⟩, "and", "and"⟩, ⟨⟨"s", .string⟩, "eq", " and x ge 1 and "⟩]) =
        some
          [⟨"and".toList, "ge".toList, .word "1969-12-31T23:59:59Z".toList⟩,
           ⟨"and".toList, "le".toList, .word "1970-01-01T00:00:00Z".toList⟩,
           ⟨"and".toList, "and".toList, .word "and".toList⟩,
           ⟨"s".toList, "eq".toList, .quoted " and x ge 1 and ".toList⟩] := by
  have and_isWord : Token.IsWord "and".toList := ⟨by decide, by decide, by decide⟩
  have readable : IsReadable (some ⟨"and", .dateTime⟩)
      [⟨⟨"and", .int32⟩, "and", "and"⟩, ⟨⟨"s", .string⟩, "eq", " and x ge 1 and "⟩] := by
    refine ⟨fun property member => ?_,
      List.forall_mem_cons.mpr ⟨?_, List.forall_mem_singleton.mpr ?_⟩⟩
    · cases member
      exact and_isWord
    · exact ⟨and_isWord, and_isWord, fun text => absurd text (by decide), fun _ => and_isWord⟩
    · have name : Token.IsWord "s".toList := ⟨by decide, by decide, by decide⟩
      have operator : Token.IsWord "eq".toList := ⟨by decide, by decide, by decide⟩
      exact ⟨name, operator, fun _ => by decide, fun other => absurd rfl other⟩
  have read := (write_readsBack readable (some ⟨⟨-1, 0⟩, ⟨0, 0⟩⟩)).1
  exact ⟨readable, read.trans (by decide +kernel)⟩

end Filter

end ODataTable
