import OpenApiTools.Entries
import Mathlib.Data.List.Basic

/-!
# Entries without repeated keys

Where no key comes twice, entries may be rearranged without a change in what is found, and entering
them one after the other changes nothing. What is entered is all that is there afterwards, and of
several entries with one key the last counts.
-/

namespace OpenApiTools.Entries

variable {α : Type} {key : String}

/-- Where no key comes twice, the order of the entries does not matter. -/
theorem get?_eq_of_perm {left right : Entries α} (distinct : (keys left).Nodup)
    (rearranged : left.Perm right) : get? key left = get? key right := by
  induction rearranged with
  | nil => rfl
  | cons entry _ inductionHypothesis =>
    have others := (List.nodup_cons.mp distinct).2
    by_cases found : entry.1 = key
    · simp [get?, found]
    · simpa [get?, found] using inductionHypothesis others
  | swap first second rest =>
    have different : second.1 ≠ first.1 := fun same =>
      (List.nodup_cons.mp distinct).1 (by simp [same])
    by_cases found : second.1 = key
    · have notFirst : first.1 ≠ key := fun same => different (found.trans same.symm)
      simp [get?, found, notFirst]
    · simp [get?, found]
  | trans leftMiddle _ leftHypothesis rightHypothesis =>
    have middle := (leftMiddle.map Prod.fst).nodup_iff.mp distinct
    exact (leftHypothesis distinct).trans (rightHypothesis middle)

/-- Of two lists of entries the first decides, unless the key is not there. -/
theorem get?_append (key : String) (first second : Entries α) :
    get? key (first ++ second) = (get? key first).or (get? key second) := by
  induction first with
  | nil => simp [get?]
  | cons entry rest inductionHypothesis =>
    by_cases found : entry.1 = key
    · simp [get?, found]
    · simpa [get?, found] using inductionHypothesis

/-- Entries under other keys may be left out. -/
theorem get?_filter (keep : String → Bool) (kept : keep key = true) (entries : Entries α) :
    get? key (entries.filter fun entry => keep entry.1) = get? key entries := by
  induction entries with
  | nil => rfl
  | cons entry rest inductionHypothesis =>
    by_cases found : entry.1 = key
    · simp [get?, found, kept]
    · by_cases other : keep entry.1 = true
      · simpa [get?, found, other] using inductionHypothesis
      · simpa [get?, found, other] using inductionHypothesis

/-- Where no key comes twice, neither the order of the entries matters nor entries under other keys
than those that count. -/
theorem get?_eq_of_filter_perm {counting : List String} {left right : Entries α}
    (distinct : (keys left).Nodup) (counts : key ∈ counting)
    (rearranged : (left.filter fun entry => entry.1 ∈ counting).Perm
      (right.filter fun entry => entry.1 ∈ counting)) :
    get? key left = get? key right := by
  have found (entries : Entries α) :
      get? key (entries.filter fun entry => entry.1 ∈ counting) = get? key entries :=
    get?_filter (fun name => decide (name ∈ counting)) (decide_eq_true counts) entries
  have distinctCounting : (keys (left.filter fun entry => entry.1 ∈ counting)).Nodup :=
    (List.filter_sublist.map Prod.fst).nodup distinct
  rw [← found left, ← found right]
  exact get?_eq_of_perm distinctCounting rearranged

/-- What is found under a key has an entry with the key. -/
theorem mem_of_get?_eq_some {value : α} {entries : Entries α}
    (found : get? key entries = some value) : (key, value) ∈ entries := by
  induction entries with
  | nil => exact nomatch found
  | cons first rest inductionHypothesis =>
    rw [get?] at found
    split at found
    · rename_i same
      rw [← same, ← Option.some.inj found]
      exact List.mem_cons_self
    · exact List.mem_cons_of_mem _ (inductionHypothesis found)

/-- An insertion adds only the entry itself. -/
theorem eq_or_mem_of_mem_insert {value : α} {entries : Entries α} {entry : String × α}
    (isThere : entry ∈ insert key value entries) : entry = (key, value) ∨ entry ∈ entries := by
  induction entries with
  | nil => exact .inl (List.mem_singleton.mp isThere)
  | cons first rest inductionHypothesis =>
    rw [insert] at isThere
    split at isThere
    · rename_i same
      rw [List.mem_cons, same] at isThere
      exact isThere.imp_right (List.mem_cons_of_mem _)
    · rcases List.mem_cons.mp isThere with rfl | later
      · exact .inr List.mem_cons_self
      · exact (inductionHypothesis later).imp_right (List.mem_cons_of_mem _)

/-- Values may be changed before or after one of them is set. -/
theorem mapValues_insert {β : Type} (f : α → β) (key : String) (value : α) (entries : Entries α) :
    mapValues f (insert key value entries) = insert key (f value) (mapValues f entries) := by
  induction entries with
  | nil => rfl
  | cons first rest inductionHypothesis =>
    by_cases same : first.1 = key
    · simp [insert, mapValues, same]
    · simpa [insert, mapValues, same] using inductionHypothesis

/-- A loop that enters pairs adds only those pairs. -/
theorem mem_or_mem_of_mem_foldl_insert {pairs : List (String × α)} {entries : Entries α}
    {entry : String × α}
    (isThere : entry ∈
      pairs.foldl (fun entries (key, value) => insert key value entries) entries) :
    entry ∈ entries ∨ entry ∈ pairs := by
  induction pairs generalizing entries with
  | nil => exact .inl isThere
  | cons pair rest inductionHypothesis =>
    rcases inductionHypothesis isThere with inserted | later
    · rcases eq_or_mem_of_mem_insert inserted with rfl | old
      · exact .inr List.mem_cons_self
      · exact .inl old
    · exact .inr (List.mem_cons_of_mem _ later)

/-- The value of the last entry with a key. -/
def last? (key : String) (entries : Entries α) : Option α :=
  get? key entries.reverse

/-- The first entry counts only if its key does not come again. -/
theorem last?_cons (key : String) (entry : String × α) (rest : Entries α) :
    last? key (entry :: rest) =
      (last? key rest).or (if entry.1 = key then some entry.2 else none) := by
  rw [last?, List.reverse_cons, get?_append]
  rfl

/-- The last value under a key is found as the image of the one before. -/
theorem last?_mapValues {β : Type} (f : α → β) (key : String) (entries : Entries α) :
    last? key (mapValues f entries) = (last? key entries).map f := by
  rw [last?, mapValues, ← List.map_reverse]
  exact get?_mapValues f key entries.reverse

/-- A loop that enters pairs leaves the last one with a key to be found, or else what was there. -/
theorem get?_foldl_insert (key : String) (pairs : List (String × α)) (entries : Entries α) :
    get? key (pairs.foldl (fun entries (key, value) => insert key value entries) entries) =
      (last? key pairs).or (get? key entries) := by
  induction pairs generalizing entries with
  | nil => rfl
  | cons pair rest inductionHypothesis =>
    rw [List.foldl_cons, inductionHypothesis, get?_insert, last?_cons, Option.or_assoc]
    by_cases same : pair.1 = key <;> simp [same]

/-- Pairs that are entered one after the other are all that is there. -/
theorem mem_of_mem_ofList {pairs : List (String × α)} {entry : String × α}
    (isThere : entry ∈ ofList pairs) : entry ∈ pairs :=
  (mem_or_mem_of_mem_foldl_insert isThere).resolve_left List.not_mem_nil

/-- A new key is added at the end. -/
theorem insert_of_not_mem_keys {value : α} {entries : Entries α} (absent : key ∉ keys entries) :
    insert key value entries = entries ++ [(key, value)] := by
  induction entries with
  | nil => rfl
  | cons first rest inductionHypothesis =>
    have notFirst : key ≠ first.1 := fun same => absent (same ▸ List.mem_cons_self)
    have notLater : key ∉ keys rest := fun later => absent (List.mem_cons_of_mem _ later)
    rw [insert, if_neg (Ne.symm notFirst), inductionHypothesis notLater]
    rfl

/-- A loop that enters pairs under new keys adds them at the end in order. -/
theorem foldl_insert_of_nodup {done rest : Entries α} (distinct : (keys (done ++ rest)).Nodup) :
    rest.foldl (fun entries (key, value) => insert key value entries) done = done ++ rest := by
  induction rest generalizing done with
  | nil => exact (List.append_nil done).symm
  | cons entry rest inductionHypothesis =>
    obtain ⟨key, value⟩ := entry
    have absent : key ∉ keys done := by
      intro isThere
      rw [keys, List.map_append, List.nodup_append] at distinct
      exact distinct.2.2 key isThere key List.mem_cons_self rfl
    rw [List.append_cons] at distinct ⊢
    rw [← inductionHypothesis distinct, List.foldl_cons]
    simp only [insert_of_not_mem_keys absent]

/-- Entries without repeated keys stay as they are when they are entered one after the other. -/
theorem ofList_eq_self {entries : Entries α} (distinct : (keys entries).Nodup) :
    ofList entries = entries :=
  foldl_insert_of_nodup distinct

end OpenApiTools.Entries
