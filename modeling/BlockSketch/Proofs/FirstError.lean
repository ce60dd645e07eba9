import BlockSketch.Proofs.Outcome
import Mathlib.Data.List.Forall2

/-!
Computations that stop at their first error. A computation reports a list of errors if it
fails with the first of them and goes well if there is none. What is done one after the other
reports its errors one after the other, so the errors that a computation would find can be
listed without running it.
-/
namespace BlockSketch.Outcome
variable {ε α β γ : Type}

/-- The computation fails with the first of these errors, and goes well if there is none. -/
def Reports (outcome : Except ε α) (errors : List ε) : Prop :=
  ∀ error, outcome = .error error ↔ errors.head? = some error

theorem reports_ok (value : α) : Reports (.ok value : Except ε α) [] := by
  intro error
  simp

theorem reports_error (error : ε) (later : List ε) : Reports (.error error : Except ε α) (error :: later) := by
  intro other
  simp

namespace Reports
variable {outcome : Except ε α} {errors others : List ε}

theorem errors_eq_nil {value : α} (reports : Reports (.ok value : Except ε α) errors) : errors = [] := by
  cases errors with
  | nil => rfl
  | cons error rest => cases (reports error).mpr rfl

theorem exists_ok_iff (reports : Reports outcome errors) : (∃ value, outcome = .ok value) ↔ errors = [] := by
  constructor
  · rintro ⟨value, rfl⟩
    exact reports.errors_eq_nil
  · rintro rfl
    cases outcome with
    | error error => cases (reports error).mp rfl
    | ok value => exact ⟨value, rfl⟩

theorem exists_error_iff (reports : Reports outcome errors) : (∃ error, outcome = .error error) ↔ errors ≠ [] := by
  rw [ne_eq, ← List.head?_eq_none_iff, ← ne_eq, Option.ne_none_iff_exists']
  exact exists_congr reports

/-- The second computation counts only if the first goes well. -/
theorem bind {next : α → Except ε β} (reports : Reports outcome errors)
    (later : ∀ value, outcome = .ok value → Reports (next value) others) :
    Reports (outcome >>= next) (errors ++ others) := by
  cases outcome with
  | error error =>
    obtain ⟨rest, rfl⟩ := List.head?_eq_some_iff.mp ((reports error).mp rfl)
    exact reports_error error (rest ++ others)
  | ok value =>
    rw [reports.errors_eq_nil, List.nil_append]
    exact later value rfl

/-- What cannot fail brings no error. -/
theorem bind_ok {next : α → Except ε β} (reports : Reports outcome errors)
    (fine : ∀ value, outcome = .ok value → ∃ made, next value = .ok made) : Reports (outcome >>= next) errors := by
  have joined : Reports (outcome >>= next) (errors ++ []) := reports.bind fun value done => by
    obtain ⟨made, goes⟩ := fine value done
    rw [goes]
    exact reports_ok made
  rwa [List.append_nil] at joined

theorem bind_pure (reports : Reports outcome errors) (f : α → β) :
    Reports (outcome >>= fun value => pure (f value)) errors :=
  reports.bind_ok fun value _ => ⟨f value, rfl⟩

theorem map_iff {f : α → β} : Reports (outcome.map f) errors ↔ Reports outcome errors := by
  refine forall_congr' fun error => iff_congr ?_ Iff.rfl
  cases outcome with
  | error first => simp [Except.map]
  | ok value => simp [Except.map]

theorem mapM {work : α → Except ε β} {found : α → List ε} {items : List α}
    (each : ∀ item ∈ items, Reports (work item) (found item)) :
    Reports (items.mapM work) (items.flatMap found) := by
  induction items with
  | nil => exact reports_ok []
  | cons item rest ih =>
    obtain ⟨first, others⟩ := List.forall_mem_cons.mp each
    rw [List.mapM_cons, List.flatMap_cons]
    exact first.bind fun value _ => (ih others).bind_pure (value :: ·)

end Reports

/-- The first of the errors that items bring is that of the first item that brings one. -/
theorem head?_flatMap_eq_some_iff {found : α → List ε} {items : List α} {error : ε} :
    (items.flatMap found).head? = some error ↔
      ∃ before item after, items = before ++ item :: after ∧ (∀ earlier ∈ before, found earlier = []) ∧
        (found item).head? = some error := by
  constructor
  · intro first
    induction items with
    | nil => cases first
    | cons item rest ih =>
      cases own : found item with
      | nil =>
        rw [List.flatMap_cons, own, List.nil_append] at first
        obtain ⟨before, later, after, rfl, quiet, brings⟩ := ih first
        exact ⟨item :: before, later, after, rfl, List.forall_mem_cons.mpr ⟨own, quiet⟩, brings⟩
      | cons other others =>
        rw [List.flatMap_cons, own] at first
        exact ⟨[], item, rest, rfl, nofun, by rw [own]; exact first⟩
  · rintro ⟨before, item, after, rfl, quiet, brings⟩
    obtain ⟨others, own⟩ := List.head?_eq_some_iff.mp brings
    rw [List.flatMap_append, List.flatMap_eq_nil_iff.mpr quiet, List.flatMap_cons, own]
    rfl

/-! ## What comes out if there is no error -/

/-- The computation reports these errors, and what it gives is right. -/
structure Yields (outcome : Except ε α) (errors : List ε) (right : α → Prop) : Prop where
  reports : Reports outcome errors
  right : ∀ value, outcome = .ok value → right value

namespace Yields
variable {outcome : Except ε α} {errors others : List ε} {right : α → Prop}

theorem ok {value : α} (holds : right value) : Yields (.ok value : Except ε α) [] right where
  reports := reports_ok value
  right := by
    rintro _ ⟨⟩
    exact holds

theorem error (error : ε) (later : List ε) (right : α → Prop) :
    Yields (.error error : Except ε α) (error :: later) right where
  reports := reports_error error later
  right := nofun

theorem bind {next : α → Except ε β} {last : β → Prop} (yields : Yields outcome errors right)
    (later : ∀ value, right value → Yields (next value) others last) :
    Yields (outcome >>= next) (errors ++ others) last where
  reports := yields.reports.bind fun value gives => (later value (yields.right value gives)).reports
  right := by
    intro value gives
    obtain ⟨between, first, second⟩ := bind_eq_ok_iff.mp gives
    exact (later between (yields.right between first)).right value second

theorem bind_ok {next : α → Except ε β} {last : β → Prop} (yields : Yields outcome errors right)
    (later : ∀ value, right value → ∃ made, next value = .ok made ∧ last made) :
    Yields (outcome >>= next) errors last := by
  have joined : Yields (outcome >>= next) (errors ++ []) last := yields.bind fun value holds => by
    obtain ⟨made, gives, good⟩ := later value holds
    rw [gives]
    exact ok good
  rwa [List.append_nil] at joined

/-- Items that stand for other items, one by one. -/
theorem mapM {work : α → Except ε β} {found : γ → List ε} {rel : α → γ → Prop} {out : β → γ → Prop}
    {items : List α} {images : List γ} (related : List.Forall₂ rel items images)
    (each : ∀ item image, rel item image → Yields (work item) (found image) (out · image)) :
    Yields (items.mapM work) (images.flatMap found) (fun values => List.Forall₂ out values images) := by
  induction related with
  | nil => exact ok .nil
  | cons first rest ih =>
    rw [List.mapM_cons, List.flatMap_cons]
    exact (each _ _ first).bind fun value made => ih.bind_ok fun values others => ⟨_, rfl, .cons made others⟩

end Yields
end BlockSketch.Outcome
