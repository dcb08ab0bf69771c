/-! Sequences of effects of which each step is known to succeed. -/

set_option autoImplicit false

namespace ODataTable

variable {α β ε : Type}

theorem bind_eq_ok {first : Except ε α} {next : α → Except ε β} {result : β} :
    (first >>= next) = .ok result ↔ ∃ value, first = .ok value ∧ next value = .ok result := by
  cases first <;> simp [bind, Except.bind]

theorem map_eq_ok {first : Except ε α} {f : α → β} {result : β} :
    first.map f = .ok result ↔ ∃ value, first = .ok value ∧ f value = result := by
  cases first <;> simp [Except.map]

theorem map_ok_iff {first : Except ε α} {f : α → β} :
    (∃ result, first.map f = .ok result) ↔ ∃ value, first = .ok value := by
  cases first <;> simp [Except.map]

theorem mapM_ok {f : α → Except ε β} {items : List α}
    (each : ∀ item ∈ items, ∃ result, f item = .ok result) :
    ∃ results, items.mapM f = .ok results := by
  induction items with
  | nil => exact ⟨[], rfl⟩
  | cons item rest ih =>
    obtain ⟨result, here⟩ := each item List.mem_cons_self
    obtain ⟨results, after⟩ := ih fun other member => each other (List.mem_cons_of_mem _ member)
    exact ⟨result :: results, by rw [List.mapM_cons, here, after]; rfl⟩

theorem mapM_ok_iff {f : α → Except ε β} {items : List α} :
    (∃ results, items.mapM f = .ok results) ↔ ∀ item ∈ items, ∃ result, f item = .ok result := by
  refine ⟨fun done => ?_, mapM_ok⟩
  induction items with
  | nil => exact fun _ member => absurd member List.not_mem_nil
  | cons item rest ih =>
    obtain ⟨results, done⟩ := done
    rw [List.mapM_cons, bind_eq_ok] at done
    obtain ⟨result, here, done⟩ := done
    obtain ⟨others, after, _⟩ := bind_eq_ok.mp done
    exact List.forall_mem_cons.mpr ⟨⟨result, here⟩, ih ⟨others, after⟩⟩

theorem mapM_eq_pure {m : Type → Type} [Monad m] [LawfulMonad m] {f : α → m β} {g : α → β}
    {items : List α} (each : ∀ item ∈ items, f item = pure (g item)) :
    items.mapM f = pure (items.map g) := by
  induction items with
  | nil => rfl
  | cons item rest ih =>
    have after := ih fun other member => each other (List.mem_cons_of_mem _ member)
    rw [List.mapM_cons, each item List.mem_cons_self, after]
    simp

end ODataTable
