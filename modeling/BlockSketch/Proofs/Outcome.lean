/-!
Computations that give a value or an error, one after the other: what has to go well for
the whole to go well.
-/
namespace BlockSketch.Outcome
variable {ε α β : Type}

theorem bind_eq_ok_iff {first : Except ε α} {next : α → Except ε β} {value : β} :
    first >>= next = .ok value ↔ ∃ between, first = .ok between ∧ next between = .ok value := by
  cases first with
  | error error =>
    constructor
    · intro impossible
      cases impossible
    · rintro ⟨between, impossible, _⟩
      cases impossible
  | ok between =>
    constructor
    · intro done
      exact ⟨between, rfl, done⟩
    · rintro ⟨same, isSame, done⟩
      cases isSame
      exact done

theorem eq_ok_of_toOption {outcome : Except ε α} {value : α} (present : outcome.toOption = some value) :
    outcome = .ok value := by
  cases outcome with
  | error error => cases present
  | ok found =>
    cases present
    rfl

theorem bind_map {γ : Type} (first : Except ε α) (image : α → β) (next : β → Except ε γ) :
    first.map image >>= next = first >>= fun value => next (image value) := by
  cases first <;> rfl

theorem map_bind {γ : Type} (first : Except ε α) (next : α → Except ε β) (image : β → γ) :
    (first >>= next).map image = first >>= fun value => (next value).map image := by
  cases first <;> rfl

/-- Computations whose values have one image fail alike or both go well. -/
theorem error_or_ok_of_map_eq {first second : Except ε α} {image : α → β}
    (same : first.map image = second.map image) :
    (∃ error, first = .error error ∧ second = .error error) ∨
      ∃ value other, first = .ok value ∧ second = .ok other := by
  cases first with
  | error error =>
    cases second with
    | error other => exact .inl ⟨error, rfl, congrArg Except.error (Except.error.inj same).symm⟩
    | ok other => cases same
  | ok value =>
    cases second with
    | error other => cases same
    | ok other => exact .inr ⟨value, other, rfl, rfl⟩

variable {work : α → Except ε β}

/-- A list of computations goes well if each of them does. -/
theorem exists_mapM {items : List α} (each : ∀ item ∈ items, ∃ value, work item = .ok value) :
    ∃ values, items.mapM work = .ok values := by
  induction items with
  | nil => exact ⟨[], rfl⟩
  | cons item rest ih =>
    obtain ⟨value, done⟩ := each item List.mem_cons_self
    obtain ⟨values, others⟩ := ih fun other member => each other (List.mem_cons_of_mem _ member)
    refine ⟨value :: values, ?_⟩
    rw [List.mapM_cons, done, others]
    rfl

theorem mapM_congr {other : α → Except ε β} {items : List α} (same : ∀ item ∈ items, work item = other item) :
    items.mapM work = items.mapM other := by
  induction items with
  | nil => rfl
  | cons item rest ih =>
    obtain ⟨first, others⟩ := List.forall_mem_cons.mp same
    rw [List.mapM_cons, List.mapM_cons, first, ih others]

/-- A list of computations that goes well gives one value for each, in order. -/
theorem mapM_cons_eq_ok {item : α} {rest : List α} {values : List β}
    (done : (item :: rest).mapM work = .ok values) :
    ∃ value others, values = value :: others ∧ work item = .ok value ∧ rest.mapM work = .ok others := by
  rw [List.mapM_cons] at done
  obtain ⟨value, first, done⟩ := bind_eq_ok_iff.mp done
  obtain ⟨others, later, done⟩ := bind_eq_ok_iff.mp done
  exact ⟨value, others, (Except.ok.inj done).symm, first, later⟩

theorem length_of_mapM {items : List α} {values : List β} (done : items.mapM work = .ok values) :
    values.length = items.length := by
  induction items generalizing values with
  | nil =>
    cases done
    rfl
  | cons item rest ih =>
    obtain ⟨value, others, rfl, _, later⟩ := mapM_cons_eq_ok done
    rw [List.length_cons, List.length_cons, ih later]

theorem exists_value_of_mem {items : List α} {values : List β} (done : items.mapM work = .ok values)
    {item : α} (member : item ∈ items) : ∃ value ∈ values, work item = .ok value := by
  induction items generalizing values with
  | nil => cases member
  | cons first rest ih =>
    obtain ⟨value, others, rfl, made, later⟩ := mapM_cons_eq_ok done
    rcases List.mem_cons.mp member with rfl | member
    · exact ⟨value, List.mem_cons_self, made⟩
    · obtain ⟨found, isFound, works⟩ := ih later member
      exact ⟨found, List.mem_cons_of_mem _ isFound, works⟩

theorem exists_item_of_mem {items : List α} {values : List β} (done : items.mapM work = .ok values)
    {value : β} (member : value ∈ values) : ∃ item ∈ items, work item = .ok value := by
  induction items generalizing values with
  | nil =>
    cases done
    cases member
  | cons first rest ih =>
    obtain ⟨made, others, rfl, works, later⟩ := mapM_cons_eq_ok done
    rcases List.mem_cons.mp member with rfl | member
    · exact ⟨first, List.mem_cons_self, works⟩
    · obtain ⟨item, isItem, gives⟩ := ih later member
      exact ⟨item, List.mem_cons_of_mem _ isItem, gives⟩

end BlockSketch.Outcome
