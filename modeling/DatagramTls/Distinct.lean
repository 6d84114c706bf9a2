/-!
Lists that grow without repetition. A value is added at the end, and only if the list does not hold
it yet, so the order is that of first appearance.
-/

namespace DatagramTls.Distinct

variable {α : Type} [DecidableEq α]

def add (values : List α) (value : α) : List α :=
  if value ∈ values then values else values ++ [value]

def addAll (values additions : List α) : List α :=
  additions.foldl add values

theorem add_of_mem {values : List α} {value : α} (present : value ∈ values) :
    add values value = values :=
  if_pos present

theorem add_of_not_mem {values : List α} {value : α} (absent : value ∉ values) :
    add values value = values ++ [value] :=
  if_neg absent

@[simp] theorem mem_add {values : List α} {value other : α} :
    other ∈ add values value ↔ other ∈ values ∨ other = value := by
  by_cases present : value ∈ values
  · rw [add_of_mem present]
    constructor
    · exact Or.inl
    · rintro (held | rfl)
      · exact held
      · exact present
  · rw [add_of_not_mem present]
    simp

theorem nodup_add {values : List α} (distinct : values.Nodup) (value : α) :
    (add values value).Nodup := by
  by_cases present : value ∈ values
  · rwa [add_of_mem present]
  · rw [add_of_not_mem present]
    exact List.nodup_append.mpr ⟨distinct, by simp, by
      intro held member other single equal
      rw [List.mem_singleton] at single
      exact present (by rwa [← single, ← equal])⟩

@[simp] theorem addAll_nil (values : List α) : addAll values [] = values := rfl

@[simp] theorem addAll_cons (values : List α) (value : α) (additions : List α) :
    addAll values (value :: additions) = addAll (add values value) additions := rfl

theorem addAll_append (values first second : List α) :
    addAll values (first ++ second) = addAll (addAll values first) second :=
  List.foldl_append

@[simp] theorem mem_addAll {values additions : List α} {other : α} :
    other ∈ addAll values additions ↔ other ∈ values ∨ other ∈ additions := by
  induction additions generalizing values with
  | nil => simp
  | cons value additions induction => simp [induction, or_assoc]

theorem nodup_addAll {values : List α} (distinct : values.Nodup) (additions : List α) :
    (addAll values additions).Nodup := by
  induction additions generalizing values with
  | nil => exact distinct
  | cons value additions induction => exact induction (nodup_add distinct value)

theorem addAll_of_subset {values additions : List α} (held : additions ⊆ values) :
    addAll values additions = values := by
  induction additions with
  | nil => rfl
  | cons value rest induction =>
      obtain ⟨present, held⟩ := List.cons_subset.mp held
      rw [addAll_cons, add_of_mem present]
      exact induction held

/-- Of values that are distinct, those that the list does not hold are added in their order. -/
theorem addAll_eq_append_filter {values additions : List α} (distinct : additions.Nodup) :
    addAll values additions = values ++ additions.filter (· ∉ values) := by
  induction additions generalizing values with
  | nil => simp
  | cons value rest induction =>
      obtain ⟨fresh, distinct⟩ := List.nodup_cons.mp distinct
      rw [addAll_cons, induction distinct]
      by_cases present : value ∈ values
      · rw [add_of_mem present, List.filter_cons_of_neg (by simpa using present)]
      · have unaffected : rest.filter (· ∉ values ++ [value]) = rest.filter (· ∉ values) := by
          apply List.filter_congr
          intro other member
          have differs : other ≠ value := fun same => fresh (same ▸ member)
          simp [differs]
        rw [add_of_not_mem present, List.filter_cons_of_pos (by simpa using present),
          List.append_assoc, unaffected]
        rfl

end DatagramTls.Distinct
