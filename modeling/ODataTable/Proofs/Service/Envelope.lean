import Mathlib.Data.List.Basic
import ODataTable.Service.Envelope

/-! Which records a body holds.

A body may hold a list of entries in several envelopes. Every version takes one of those lists as
a whole, and which one matters only if the second version is asked for.
-/

set_option autoImplicit false

namespace ODataTable

def Json.Value.isObject : Json.Value → Bool
  | .object _ => true
  | _ => false

namespace Envelope

/-- The body is an object that holds a list of entries in an envelope, whatever else it holds. -/
inductive Wraps : Json.Value → Envelope → List Json.Value → Prop where
  | value {members : Dictionary Json.Value} {items : List Json.Value}
      (list : members.find? "value" = some (.array items)) : Wraps (.object members) .value items
  | dataResults {members data : Dictionary Json.Value} {items : List Json.Value}
      (outer : members.find? "d" = some (.object data))
      (list : data.find? "results" = some (.array items)) :
      Wraps (.object members) .dataResults items
  | dataList {members : Dictionary Json.Value} {items : List Json.Value}
      (list : members.find? "d" = some (.array items)) : Wraps (.object members) .dataList items
  | results {members : Dictionary Json.Value} {items : List Json.Value}
      (list : members.find? "results" = some (.array items)) :
      Wraps (.object members) .results items

/-- The records are the objects among the entries, as they are and in their order. -/
def Gathers (items : List Json.Value) (records : List EntityRecord) : Prop :=
  records.map Json.Value.object = items.filter Json.Value.isObject

theorem gathers_filterMap (items : List Json.Value) :
    Gathers items (items.filterMap Json.Value.object?) := by
  unfold Gathers
  induction items with
  | nil => rfl
  | cons item rest ih =>
    rw [List.filterMap_cons, List.filter_cons]
    cases item with
    | object members => simp [Json.Value.object?, Json.Value.isObject, ih]
    | null | bool | integer | real | string | array =>
      simp [Json.Value.object?, Json.Value.isObject, ih]

theorem Gathers.unique {items : List Json.Value} {first second : List EntityRecord}
    (gathers : Gathers items first) (again : Gathers items second) : first = second := by
  have injective : Function.Injective Json.Value.object := fun a b => Json.Value.object.inj
  exact List.map_injective_iff.mpr injective (gathers.trans again.symm)

theorem array?_eq_some {value : Json.Value} {items : List Json.Value} :
    value.array? = some items ↔ value = .array items := by
  cases value <;> simp [Json.Value.array?]

theorem object?_eq_some {value : Json.Value} {members : Dictionary Json.Value} :
    value.object? = some members ↔ value = .object members := by
  cases value <;> simp [Json.Value.object?]

theorem entries?_eq_some {members : Dictionary Json.Value} {shape : Envelope}
    {items : List Json.Value} :
    entries? members shape = some items ↔ Wraps (.object members) shape items := by
  constructor
  · intro found
    cases shape with
    | value =>
      simp only [entries?, Option.bind_eq_bind, Option.bind_eq_some_iff, array?_eq_some] at found
      obtain ⟨_, list, rfl⟩ := found
      exact .value list
    | dataResults =>
      simp only [entries?, Option.bind_eq_bind, Option.bind_eq_some_iff, array?_eq_some,
        object?_eq_some] at found
      obtain ⟨_, outer, _, rfl, _, list, rfl⟩ := found
      exact .dataResults outer list
    | dataList =>
      simp only [entries?, Option.bind_eq_bind, Option.bind_eq_some_iff, array?_eq_some] at found
      obtain ⟨_, list, rfl⟩ := found
      exact .dataList list
    | results =>
      simp only [entries?, Option.bind_eq_bind, Option.bind_eq_some_iff, array?_eq_some] at found
      obtain ⟨_, list, rfl⟩ := found
      exact .results list
  · intro wraps
    cases wraps with
    | value list => simp [entries?, list, Json.Value.array?]
    | dataResults outer list =>
      simp [entries?, outer, list, Json.Value.array?, Json.Value.object?]
    | dataList list => simp [entries?, list, Json.Value.array?]
    | results list => simp [entries?, list, Json.Value.array?]

theorem not_wraps {body : Json.Value} (noObject : body.isObject = false) (shape : Envelope)
    (items : List Json.Value) : ¬ Wraps body shape items := by
  intro wraps
  cases wraps <;> cases noObject

theorem Wraps.unique {body : Json.Value} {shape : Envelope} {first second : List Json.Value}
    (wraps : Wraps body shape first) (again : Wraps body shape second) : first = second := by
  cases body with
  | object members =>
    rw [← entries?_eq_some] at wraps again
    exact Option.some.inj (wraps.symm.trans again)
  | null | bool | integer | real | string | array => exact absurd wraps (not_wraps rfl shape first)

theorem mem_order (version : ProtocolVersion) (shape : Envelope) : shape ∈ order version := by
  cases version <;> cases shape <;> decide

/-- The records of a body are gathered from one of the lists that it wraps. Without any there are
none. -/
theorem records_cases (version : ProtocolVersion) (body : Json.Value) :
    (∃ shape items, Wraps body shape items ∧ Gathers items (records version body)) ∨
      ((∀ shape items, ¬ Wraps body shape items) ∧ records version body = []) := by
  cases body with
  | object members =>
    cases search : (order version).findSome? (entries? members) with
    | some items =>
      obtain ⟨shape, _, found⟩ := List.exists_of_findSome?_eq_some search
      refine .inl ⟨shape, items, entries?_eq_some.mp found, ?_⟩
      simpa only [records, search, Option.getD_some] using gathers_filterMap items
    | none =>
      refine .inr ⟨fun shape items wraps => ?_, by simp [records, search]⟩
      -- The search goes through every envelope, this one too.
      have missed := List.findSome?_eq_none_iff.mp search shape (mem_order version shape)
      rw [entries?_eq_some.mpr wraps] at missed
      cases missed
  | null | bool | integer | real | string | array =>
    exact .inr ⟨not_wraps rfl, rfl⟩

theorem decode_of_parsed (version : ProtocolVersion) {body : List UInt8} {json : Json.Value}
    (parsed : Json.parse body = .ok json) : decode version body = .ok (records version json) := by
  rw [decode, parsed]
  rfl

/-- Every version takes its records from every envelope. A body with one list gives the objects
of that list, a body without any gives none, and of several lists one is taken alone. -/
theorem decode_gathers (version : ProtocolVersion) {body : List UInt8} {json : Json.Value}
    (parsed : Json.parse body = .ok json) :
    (∀ shape items, Wraps json shape items →
      (∀ other list, Wraps json other list → other = shape) →
      ∃ records, decode version body = .ok records ∧ Gathers items records) ∧
    ((∀ shape items, ¬ Wraps json shape items) → decode version body = .ok []) ∧
    ((∃ shape items, Wraps json shape items) →
      ∃ shape items records, Wraps json shape items ∧ decode version body = .ok records ∧
        Gathers items records) := by
  rw [decode_of_parsed version parsed]
  rcases records_cases version json with ⟨shape, items, wraps, gathers⟩ | ⟨without, none⟩
  · refine ⟨fun only list held alone => ⟨_, rfl, ?_⟩, fun without => ?_, fun _ => ?_⟩
    · cases alone shape items wraps
      rwa [held.unique wraps]
    · exact absurd wraps (without shape items)
    · exact ⟨shape, items, _, wraps, rfl, gathers⟩
  · refine ⟨fun shape list held _ => absurd held (without shape list), fun _ => by rw [none], ?_⟩
    rintro ⟨shape, list, held⟩
    exact absurd held (without shape list)

/-- A `value` that is no list does not hide the list in `d`. -/
def coveredBody : List UInt8 :=
  Utf8.encode "\x7b\"value\":\x7b\x7d,\"d\":[\x7b\"a\":true\x7d,7,\x7b\x7d],\"n\":null\x7d".toList

def coveredEntries : List Json.Value := [.object [("a", .bool true)], .integer 7, .object []]

def coveredJson : Json.Value :=
  .object [("d", .array coveredEntries), ("n", .null), ("value", .object [])]

theorem decode_gathers_covered :
    Json.parse coveredBody = .ok coveredJson ∧ Wraps coveredJson .dataList coveredEntries ∧
      decode .v4 coveredBody = .ok [[("a", .bool true)], []] := by
  have parsed : Json.parse coveredBody = .ok coveredJson := by decide +kernel
  have wraps : Wraps coveredJson .dataList coveredEntries := .dataList rfl
  have alone : ∀ other list, Wraps coveredJson other list → other = .dataList := by
    intro other list held
    cases held with
    | value held => cases held
    | dataResults held _ => cases held
    | dataList held => rfl
    | results held => cases held
  obtain ⟨records, decoded, gathers⟩ := (decode_gathers .v4 parsed).1 _ _ wraps alone
  have objects : Gathers coveredEntries [[("a", .bool true)], []] := rfl
  exact ⟨parsed, wraps, by rw [decoded, gathers.unique objects]⟩

end Envelope

end ODataTable
