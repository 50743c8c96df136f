import Mathlib.Data.List.Forall2
/-!
# Results of steps that may fail

What a sequence of steps gave, each of its steps gave something for; and if each step gives
something, so does the sequence. What a sequence fails with, one of its steps failed with.
-/

namespace StreamQuery

variable {ε α β : Type}

theorem ok_of_bind {first : Except ε α} {next : α → Except ε β} {result : β}
    (done : (first >>= next) = .ok result) :
    ∃ value, first = .ok value ∧ next value = .ok result := by
  cases first with
  | error error => cases done
  | ok value => exact ⟨value, rfl, done⟩

theorem ok_of_map {first : Except ε α} {change : α → β} {result : β}
    (done : first.map change = .ok result) : ∃ value, first = .ok value ∧ change value = result := by
  cases first with
  | error error => cases done
  | ok value =>
      cases done
      exact ⟨value, rfl, rfl⟩

theorem exists_ok_bind {first : Except ε α} {next : α → Except ε β} :
    (∃ result, (first >>= next) = .ok result) ↔
      ∃ value, first = .ok value ∧ ∃ result, next value = .ok result := by
  constructor
  · rintro ⟨result, done⟩
    obtain ⟨value, given, done⟩ := ok_of_bind done
    exact ⟨value, given, result, done⟩
  · rintro ⟨value, given, result, done⟩
    exact ⟨result, by rw [given]; exact done⟩

theorem exists_ok_map {first : Except ε α} {change : α → β} :
    (∃ result, first.map change = .ok result) ↔ ∃ value, first = .ok value := by
  cases first with
  | error error => simp [Except.map]
  | ok value => simp [Except.map]

/-- Whatever a step fails with is a failure of some sort. -/
def FailsBy (sort : ε → Prop) (step : Except ε α) : Prop :=
  ∀ error, step = .error error → sort error

namespace FailsBy

variable {sort : ε → Prop}

theorem ok (value : α) : FailsBy sort (.ok value) := by
  intro error failed
  cases failed

theorem error {failure : ε} (sorted : sort failure) :
    FailsBy sort (.error failure : Except ε α) := by
  intro error failed
  cases failed
  exact sorted

theorem weaken {wider : ε → Prop} {step : Except ε α} (fails : FailsBy sort step)
    (covers : ∀ error, sort error → wider error) : FailsBy wider step :=
  fun error failed => covers error (fails error failed)

theorem bind {first : Except ε α} {next : α → Except ε β} (opening : FailsBy sort first)
    (rest : ∀ value, FailsBy sort (next value)) : FailsBy sort (first >>= next) := by
  cases first with
  | error error => exact .error (opening error rfl)
  | ok value => exact rest value

theorem map {first : Except ε α} {change : α → β} (opening : FailsBy sort first) :
    FailsBy sort (first.map change) := by
  cases first with
  | error error => exact .error (opening error rfl)
  | ok value => exact .ok (change value)

theorem mapM {step : α → Except ε β} {items : List α}
    (each : ∀ item ∈ items, FailsBy sort (step item)) : FailsBy sort (items.mapM step) := by
  induction items with
  | nil => exact .ok []
  | cons item rest induction =>
      rw [List.mapM_cons]
      have later := induction fun other member => each other (List.mem_cons_of_mem _ member)
      exact (each item List.mem_cons_self).bind fun _ => later.bind fun _ => .ok _

end FailsBy

theorem mapError_bind {ζ : Type} (change : ε → ζ) (first : Except ε α) (next : α → Except ε β) :
    (first >>= next).mapError change =
      first.mapError change >>= fun value => (next value).mapError change := by
  cases first <;> rfl

theorem mapM_of_forall₂ {step : α → Except ε β} {items : List α} {results : List β}
    (done : List.Forall₂ (fun item result => step item = .ok result) items results) :
    items.mapM step = .ok results := by
  induction done with
  | nil => rfl
  | cons first rest induction =>
      rw [List.mapM_cons, first, induction]
      rfl

theorem forall₂_of_mapM {step : α → Except ε β} {items : List α} {results : List β}
    (done : items.mapM step = .ok results) :
    List.Forall₂ (fun item result => step item = .ok result) items results := by
  induction items generalizing results with
  | nil =>
      cases done
      exact .nil
  | cons first rest induction =>
      rw [List.mapM_cons] at done
      obtain ⟨result, here, done⟩ := ok_of_bind done
      obtain ⟨others, later, done⟩ := ok_of_bind done
      cases done
      exact .cons here (induction later)

theorem exists_result {related : α → β → Prop} {items : List α} {results : List β}
    (all : List.Forall₂ related items results) {item : α} (member : item ∈ items) :
    ∃ result ∈ results, related item result := by
  induction all with
  | nil => cases member
  | @cons first last items results here rest induction =>
      rcases List.mem_cons.1 member with rfl | member
      · exact ⟨last, List.mem_cons_self, here⟩
      · obtain ⟨result, among, found⟩ := induction member
        exact ⟨result, List.mem_cons_of_mem _ among, found⟩

theorem ok_of_mapM {step : α → Except ε β} {items : List α} {results : List β}
    (done : items.mapM step = .ok results) {item : α} (member : item ∈ items) :
    ∃ result, step item = .ok result := by
  obtain ⟨result, _, given⟩ := exists_result (forall₂_of_mapM done) member
  exact ⟨result, given⟩

theorem exists_item {related : α → β → Prop} {items : List α} {results : List β}
    (all : List.Forall₂ related items results) {result : β} (member : result ∈ results) :
    ∃ item ∈ items, related item result :=
  have flipped : List.Forall₂ (flip related) results items := List.Forall₂.flip all
  exists_result flipped member

/-- Related lists, with the places of their items. -/
theorem forall₂_members {related : α → β → Prop} {items : List α} {results : List β}
    (all : List.Forall₂ related items results) :
    List.Forall₂ (fun item result => item ∈ items ∧ result ∈ results ∧ related item result)
      items results := by
  induction all with
  | nil => exact .nil
  | cons first rest induction =>
      refine .cons ⟨List.mem_cons_self, List.mem_cons_self, first⟩ (induction.imp ?_)
      exact fun item result ⟨member, among, fits⟩ =>
        ⟨List.mem_cons_of_mem _ member, List.mem_cons_of_mem _ among, fits⟩

/-- Items have related results one by one exactly if they have a related list of them. -/
theorem exists_forall₂ {related : α → β → Prop} {items : List α} :
    (∃ results, List.Forall₂ related items results) ↔
      ∀ item ∈ items, ∃ result, related item result := by
  constructor
  · rintro ⟨results, all⟩ item member
    obtain ⟨result, -, fits⟩ := exists_result all member
    exact ⟨result, fits⟩
  · intro each
    induction items with
    | nil => exact ⟨[], .nil⟩
    | cons first rest ih =>
        obtain ⟨result, fits⟩ := each first List.mem_cons_self
        obtain ⟨results, all⟩ := ih fun item member => each item (List.mem_cons_of_mem _ member)
        exact ⟨result :: results, .cons fits all⟩

/-- Where related items have something between them, so have related lists. -/
theorem exists_between {γ : Type} {related : α → β → Prop} {left : α → γ → Prop}
    {right : γ → β → Prop} {items : List α} {results : List β}
    (all : List.Forall₂ related items results)
    (each : ∀ item ∈ items, ∀ result, related item result →
      ∃ middle, left item middle ∧ right middle result) :
    ∃ middles, List.Forall₂ left items middles ∧ List.Forall₂ right middles results := by
  induction all with
  | nil => exact ⟨[], .nil, .nil⟩
  | cons first rest ih =>
      obtain ⟨middle, before, after⟩ := each _ List.mem_cons_self _ first
      obtain ⟨middles, lefts, rights⟩ :=
        ih fun item member => each item (List.mem_cons_of_mem _ member)
      exact ⟨middle :: middles, .cons before lefts, .cons after rights⟩

theorem mapM_ok {step : α → Except ε β} {change : α → β} {items : List α}
    (done : ∀ item ∈ items, step item = .ok (change item)) :
    items.mapM step = .ok (items.map change) :=
  mapM_of_forall₂ (List.forall₂_map_right_iff.2 (List.forall₂_same.2 done))

end StreamQuery
