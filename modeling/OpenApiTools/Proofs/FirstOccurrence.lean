import Mathlib.Data.List.Basic
import Mathlib.Data.List.Induction

/-!
# Names at their first occurrence

Names are collected one after the other, and a name that is there already is not added again. The
result lists every name once, at the place where it first came.
-/

namespace OpenApiTools

variable {α β : Type} [DecidableEq α] [DecidableEq β]

/-- The known items, followed by the others at their first occurrence. -/
def appendNew (known : List α) : List α → List α
  | [] => known
  | item :: rest => appendNew (if item ∈ known then known else known ++ [item]) rest

@[simp] theorem appendNew_nil (known : List α) : appendNew known [] = known := rfl

/-- Lists may be added one after the other. -/
theorem appendNew_append (known first second : List α) :
    appendNew known (first ++ second) = appendNew (appendNew known first) second := by
  induction first generalizing known with
  | nil => rfl
  | cons item rest inductionHypothesis => exact inductionHypothesis _

/-- An item is there in the end if it was known or has been added. -/
@[simp] theorem mem_appendNew {item : α} {known added : List α} :
    item ∈ appendNew known added ↔ item ∈ known ∨ item ∈ added := by
  induction added generalizing known with
  | nil => simp
  | cons other rest inductionHypothesis =>
    rw [appendNew, inductionHypothesis, List.mem_cons]
    by_cases present : other ∈ known
    · rw [if_pos present]
      constructor
      · rintro (old | new)
        · exact .inl old
        · exact .inr (.inr new)
      · rintro (old | rfl | new)
        · exact .inl old
        · exact .inl present
        · exact .inr new
    · rw [if_neg present, List.mem_append, List.mem_singleton]
      exact or_assoc

/-- No item is there twice in the end if none was known twice. -/
theorem nodup_appendNew {known : List α} (distinct : known.Nodup) (added : List α) :
    (appendNew known added).Nodup := by
  induction added generalizing known with
  | nil => exact distinct
  | cons item rest inductionHypothesis =>
    apply inductionHypothesis
    split
    · exact distinct
    · rename_i absent
      rw [List.nodup_append]
      refine ⟨distinct, by simp, ?_⟩
      rintro other isKnown _ isItem rfl
      exact absent (List.mem_singleton.mp isItem ▸ isKnown)

/-- An item that is known may be struck out of those to be added. -/
theorem appendNew_filter_ne {item : α} {known : List α} (present : item ∈ known)
    (added : List α) :
    appendNew known (added.filter (· ≠ item)) = appendNew known added := by
  induction added generalizing known with
  | nil => rfl
  | cons other rest inductionHypothesis =>
    by_cases same : other = item
    · subst same
      rw [List.filter_cons_of_neg (by simp), appendNew, if_pos present]
      exact inductionHypothesis present
    · rw [List.filter_cons_of_pos (by simpa using same), appendNew, appendNew]
      refine inductionHypothesis ?_
      split
      · exact present
      · exact List.mem_append_left _ present

/-- Items may be left out before or after. -/
theorem appendNew_filter (keep : α → Bool) (known added : List α) :
    appendNew (known.filter keep) (added.filter keep) = (appendNew known added).filter keep := by
  induction added generalizing known with
  | nil => rfl
  | cons item rest inductionHypothesis =>
    rw [appendNew, ← inductionHypothesis]
    by_cases isKept : keep item = true
    · rw [List.filter_cons_of_pos isKept, appendNew]
      by_cases present : item ∈ known <;> simp [present, isKept]
    · rw [List.filter_cons_of_neg isKept]
      by_cases present : item ∈ known <;> simp [present, isKept]

/-- Items may be renamed before or after, as long as different ones stay different. -/
theorem appendNew_map {rename : α → β} (injective : Function.Injective rename)
    (known added : List α) :
    appendNew (known.map rename) (added.map rename) = (appendNew known added).map rename := by
  induction added generalizing known with
  | nil => rfl
  | cons item rest inductionHypothesis =>
    have membership : rename item ∈ known.map rename ↔ item ∈ known := by
      constructor
      · intro present
        obtain ⟨other, isKnown, equal⟩ := List.mem_map.mp present
        rwa [← injective equal]
      · exact List.mem_map_of_mem
    rw [List.map_cons, appendNew, appendNew, ← inductionHypothesis]
    by_cases present : item ∈ known
    · rw [if_pos (membership.mpr present), if_pos present]
    · rw [if_neg (mt membership.mp present), if_neg present, List.map_append]
      rfl

/-- The result lists the items of a source at their first places: each of them once, in the order in
which they first come. -/
structure ListsFirst (source result : List α) : Prop where
  mem_iff : ∀ item, item ∈ result ↔ item ∈ source
  ordered : result.Pairwise fun former latter => source.idxOf former < source.idxOf latter

/-- What is listed at its first place is listed once. -/
theorem ListsFirst.nodup {source result : List α} (lists : ListsFirst source result) :
    result.Nodup := by
  apply lists.ordered.imp
  rintro former latter earlier rfl
  exact Nat.lt_irrefl _ earlier

/-- What is listed before an item comes first before it, and what is listed after it comes first
after it. -/
theorem ListsFirst.exists_split_of_mem {source result : List α} (lists : ListsFirst source result)
    {item : α} (isThere : item ∈ result) :
    ∃ before after, result = before ++ item :: after ∧
      (∀ former ∈ before, source.idxOf former < source.idxOf item) ∧
      ∀ latter ∈ after, source.idxOf item < source.idxOf latter := by
  obtain ⟨before, after, rfl⟩ := List.append_of_mem isThere
  obtain ⟨-, ordered, across⟩ := List.pairwise_append.mp lists.ordered
  refine ⟨before, after, rfl, ?_, (List.pairwise_cons.mp ordered).1⟩
  intro former isFormer
  exact across former isFormer item List.mem_cons_self

/-- Items that are collected one after the other are listed at their first places. -/
theorem listsFirst_appendNew (source : List α) : ListsFirst source (appendNew [] source) where
  mem_iff := by simp
  ordered := by
    -- By induction from the end of the source: its last item moves no earlier first place.
    induction source using List.reverseRecOn with
    | nil => exact List.Pairwise.nil
    | append_singleton source last inductionHypothesis =>
      have kept : (appendNew [] source).Pairwise fun former latter =>
          (source ++ [last]).idxOf former < (source ++ [last]).idxOf latter := by
        refine inductionHypothesis.imp_of_mem fun {former latter} isFormer isLatter earlier => ?_
        have formerThere : former ∈ source := by simpa using isFormer
        have latterThere : latter ∈ source := by simpa using isLatter
        rwa [List.idxOf_append_of_mem formerThere, List.idxOf_append_of_mem latterThere]
      rw [appendNew_append, appendNew, appendNew_nil]
      split
      · exact kept
      · rename_i isNew
        have absent : last ∉ source := by simpa using isNew
        refine List.pairwise_append.mpr ⟨kept, List.pairwise_singleton _ _, ?_⟩
        intro former isFormer latter isLast
        obtain rfl := List.mem_singleton.mp isLast
        have there : former ∈ source := by simpa using isFormer
        rw [List.idxOf_append_of_mem there, List.idxOf_append_of_notMem absent]
        exact Nat.lt_add_right _ (List.idxOf_lt_length_iff.mpr there)

section Fold

variable {σ γ : Type} {step : σ → γ → σ}

/-- A loop whose every step adds some items adds the items of all its steps. -/
theorem foldl_eq_appendNew (known : σ → List α) (added : γ → List α)
    (stepAdds : ∀ state item, known (step state item) = appendNew (known state) (added item))
    (state : σ) (items : List γ) :
    known (items.foldl step state) = appendNew (known state) (items.flatMap added) := by
  induction items generalizing state with
  | nil => rfl
  | cons item rest inductionHypothesis =>
    rw [List.foldl_cons, inductionHypothesis, stepAdds, List.flatMap_cons, appendNew_append]

/-- A loop whose every step adds one item adds the items of all its steps. -/
theorem foldl_eq_appendNew_map (known : σ → List α) (added : γ → α)
    (stepAdds : ∀ state item, known (step state item) = appendNew (known state) [added item])
    (state : σ) (items : List γ) :
    known (items.foldl step state) = appendNew (known state) (items.map added) := by
  rw [List.map_eq_flatMap]
  exact foldl_eq_appendNew known _ stepAdds state items

/-- A loop none of whose steps adds an item adds none. -/
theorem foldl_eq_of_step_eq (known : σ → List α)
    (stepKeeps : ∀ state item, known (step state item) = known state)
    (state : σ) (items : List γ) : known (items.foldl step state) = known state := by
  have nothing : items.flatMap (fun _ => ([] : List α)) = [] :=
    List.flatMap_eq_nil_iff.mpr fun _ _ => rfl
  rw [foldl_eq_appendNew known (fun _ => []) stepKeeps, nothing, appendNew_nil]

end Fold

end OpenApiTools
